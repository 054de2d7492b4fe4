import Freehold.Village.Name
import Freehold.Vocabulary
import Mathlib.Data.List.DropRight

/-!
The grammar of village names. A name is a line of ASCII that starts with a letter or digit and does
not end with a space, so no blank but the space occurs in it, and no character that lower case turns
into more than one. Two names have the same key just when they differ in the case of their letters
only.
-/

namespace Freehold

/-! ### Lower case of ASCII -/

/-- In a text without other characters than those of ASCII no sigma and no dotted I is met, and each
character is mapped on its own. -/
theorem LowerCase.chars_of_ascii {cs : List Char} (h : ∀ c ∈ cs, c.toNat < 128) :
    chars cs = cs.map Char.toLower := by
  have hafter (before : List Char) : after before cs = cs.map Char.toLower := by
    -- What stands before a character matters for a sigma only.
    induction cs generalizing before with
    | nil => rfl
    | cons c cs ih =>
      obtain ⟨hc, hcs⟩ := List.forall_mem_cons.mp h
      have hsigma : c ≠ capitalSigma := by
        rintro rfl
        exact absurd hc (by decide)
      rw [after, if_neg hsigma, ofChar, if_pos hc, ih hcs, List.map_cons, List.singleton_append]
  exact hafter []

namespace VillageName

def IsLetter (c : Char) : Prop := ('a' ≤ c ∧ c ≤ 'z') ∨ ('A' ≤ c ∧ c ≤ 'Z')

def IsDigit (c : Char) : Prop := '0' ≤ c ∧ c ≤ '9'

def apostrophe : Char := Char.ofNat 0x27

/-- What a name looks like: a text of bounded length, over a small alphabet, with a letter or digit
at its start and no space at its end. -/
structure WellFormed (name : String) (shortest longest : Nat) : Prop where
  long : shortest ≤ name.length
  short : name.length ≤ longest
  first : ∃ c, name.toList.head? = some c ∧ (IsLetter c ∨ IsDigit c)
  last : name.toList.getLast? ≠ some ' '
  alphabet : ∀ c ∈ name.toList,
    IsLetter c ∨ IsDigit c ∨ c = ' ' ∨ c = '_' ∨ c = '-' ∨ c = apostrophe

/-! ### The characters of a name -/

theorem isLetterOrDigit_iff {c : Char} : isLetterOrDigit c = true ↔ IsLetter c ∨ IsDigit c := by
  have hupper : c.isUpper = decide ('A' ≤ c ∧ c ≤ 'Z') := rfl
  have hlower : c.isLower = (decide ('a' ≤ c) && decide (c ≤ 'z')) := rfl
  have hdigit : c.isDigit = (decide ('0' ≤ c) && decide (c ≤ '9')) := rfl
  change (c.isUpper || c.isLower || c.isDigit) = true ↔ _
  rw [hupper, hlower, hdigit]
  simp only [Bool.or_eq_true, Bool.and_eq_true, decide_eq_true_iff, IsLetter, IsDigit]
  rw [or_comm (a := 'A' ≤ c ∧ c ≤ 'Z')]

/-- After the first character there may also be spaces, underscores, hyphens and apostrophes. -/
theorem mayFollow_iff {c : Char} : mayFollow c = true ↔
    IsLetter c ∨ IsDigit c ∨ c = ' ' ∨ c = '_' ∨ c = '-' ∨ c = apostrophe := by
  have hmark : c.toNat = 0x27 ↔ c = apostrophe := Char.toNat_inj (d := apostrophe)
  simp only [mayFollow, Bool.or_eq_true, beq_iff_eq, isLetterOrDigit_iff, hmark]
  tauto

/-- Letters and digits lie between the digit 0 and the small z. -/
theorem bounds_of_isLetterOrDigit {c : Char} (h : isLetterOrDigit c = true) :
    48 ≤ c.toNat ∧ c.toNat ≤ 122 := by
  rw [isLetterOrDigit_iff] at h
  change ((97 ≤ c.toNat ∧ c.toNat ≤ 122) ∨ (65 ≤ c.toNat ∧ c.toNat ≤ 90)) ∨
    (48 ≤ c.toNat ∧ c.toNat ≤ 57) at h
  omega

theorem bounds_of_mayFollow {c : Char} (h : mayFollow c = true) :
    32 ≤ c.toNat ∧ c.toNat ≤ 122 := by
  simp only [mayFollow, Bool.or_eq_true, beq_iff_eq] at h
  rcases h with (((h | rfl) | rfl) | h) | rfl
  · have hbounds := bounds_of_isLetterOrDigit h
    omega
  · decide
  · decide
  · omega
  · decide

theorem isBlank_of_isLetterOrDigit {c : Char} (h : isLetterOrDigit c = true) :
    isBlank c = false := by
  have hbounds := bounds_of_isLetterOrDigit h
  simp only [isBlank, Bool.or_eq_false_iff, Bool.and_eq_false_iff, decide_eq_false_iff_not,
    beq_eq_false_iff_ne]
  omega

/-- Of the characters that may follow, the space is the only blank. -/
theorem isBlank_iff_of_mayFollow {c : Char} (h : mayFollow c = true) :
    isBlank c = true ↔ c = ' ' := by
  simp only [mayFollow, Bool.or_eq_true, beq_iff_eq] at h
  rcases h with (((h | rfl) | rfl) | h) | rfl
  · have hblank := isBlank_of_isLetterOrDigit h
    have hspace : c ≠ ' ' := by
      rintro rfl
      cases hblank
    simp [hblank, hspace]
  · decide
  · decide
  · obtain rfl : c = apostrophe := Char.toNat_inj.mp h
    decide
  · decide

/-! ### The text as a whole -/

/-- A text that does not start with a blank is trimmed at its end only. -/
theorem trim_eq_rdropWhile {c : Char} {cs : List Char} (h : isBlank c = false) :
    trim (c :: cs) = (c :: cs).rdropWhile isBlank := by
  have hstart : dropBlanks (c :: cs) = c :: cs := List.dropWhile_cons_of_neg (by simp [h])
  rw [trim, hstart]
  rfl

/-- A text that fits the pattern has a letter or digit first and only characters of the alphabet. -/
theorem hasPattern_iff {cs : List Char} : hasPattern cs = true ↔
    (∃ c, cs.head? = some c ∧ isLetterOrDigit c = true) ∧ ∀ c ∈ cs, mayFollow c = true := by
  cases cs with
  | nil => simp [hasPattern]
  | cons c cs =>
    have hfirst (h : isLetterOrDigit c = true) : mayFollow c = true := by
      simp [mayFollow, h]
    simp only [hasPattern, Bool.and_eq_true, List.all_eq_true, List.head?_cons, Option.some.injEq,
      exists_eq_left', List.forall_mem_cons]
    exact ⟨fun ⟨hc,hcs⟩ => ⟨hc,hfirst hc,hcs⟩,fun ⟨hc,_,hcs⟩ => ⟨hc,hcs⟩⟩

/-- Where the pattern is met, trimming would take away spaces at the end and nothing else. -/
theorem trim_eq_self_iff {cs : List Char} (h : hasPattern cs = true) :
    trim cs = cs ↔ cs.getLast? ≠ some ' ' := by
  obtain ⟨⟨c, hhead, hc⟩, hall⟩ := hasPattern_iff.mp h
  obtain ⟨rest, rfl⟩ := List.head?_eq_some_iff.mp hhead
  have hne : c :: rest ≠ [] := List.cons_ne_nil c rest
  have hlast := hall _ (List.getLast_mem hne)
  rw [trim_eq_rdropWhile (isBlank_of_isLetterOrDigit hc), List.rdropWhile_eq_self_iff,
    List.getLast?_eq_getLast_of_ne_nil hne]
  simp only [ne_eq, Option.some.injEq, isBlank_iff_of_mayFollow hlast]
  exact ⟨fun hn => hn hne,fun hn _ => hn⟩

/-- The check accepts the texts of the grammar and no others. -/
theorem check_eq_ok_iff {name : String} {shortest longest : Nat} :
    check name shortest longest = .ok () ↔ WellFormed name shortest longest := by
  have hlength : name.toList.length = name.length := String.length_toList
  unfold check
  dsimp only
  constructor
  · intro h
    split at h
    · cases h
    split at h
    · cases h
    split at h
    · cases h
    next hbounds hshape =>
      simp only [not_or, not_lt, hlength] at hbounds
      simp only [not_or, not_not, Bool.not_eq_false] at hshape
      obtain ⟨htrim, hpattern⟩ := hshape
      obtain ⟨⟨c, hhead, hc⟩, hall⟩ := hasPattern_iff.mp hpattern
      exact {
        long := hbounds.1
        short := hbounds.2
        first := ⟨c,hhead,isLetterOrDigit_iff.mp hc⟩
        last := (trim_eq_self_iff hpattern).mp htrim
        alphabet := fun c hm => mayFollow_iff.mp (hall c hm) }
  · intro h
    obtain ⟨c, hhead, hc⟩ := h.first
    have hpattern : hasPattern name.toList = true := hasPattern_iff.mpr
      ⟨⟨c,hhead,isLetterOrDigit_iff.mpr hc⟩,fun c hm => mayFollow_iff.mpr (h.alphabet c hm)⟩
    have htrim : trim name.toList = name.toList := (trim_eq_self_iff hpattern).mpr h.last
    have hfilled : name.toList ≠ [] := by
      intro hnil
      rw [hnil] at hhead
      cases hhead
    have hbounds : ¬(name.toList.length < shortest ∨ longest < name.toList.length) := by
      rw [not_or, not_lt, not_lt, hlength]
      exact ⟨h.long,h.short⟩
    have hshape : ¬(trim name.toList ≠ name.toList ∨ hasPattern name.toList = false) := by
      simp [htrim, hpattern]
    rw [if_neg hfilled, if_neg hbounds, if_neg hshape]

/-- The key of a name is the name in lower case, as ASCII has it. -/
theorem key_of_wellFormed {name : String} {shortest longest : Nat}
    (h : WellFormed name shortest longest) :
    key name = String.ofList (name.toList.map Char.toLower) := by
  rw [key, LowerCase.text, LowerCase.chars_of_ascii]
  intro c hc
  have hbounds := bounds_of_mayFollow (mayFollow_iff.mpr (h.alphabet c hc))
  omega

/-- A name is accepted under given bounds just when it is of the grammar, so neither a line break
nor a tab nor a character outside ASCII has a place in it. Two names that are accepted, be it under
different bounds, have one key just when they are the same word up to the case of their letters. -/
theorem names_exact :
    (∀ name shortest longest,
      check name shortest longest = .ok () ↔ WellFormed name shortest longest) ∧
    (∀ name shortest longest, check name shortest longest = .ok () →
      ∀ c ∈ name.toList, ' ' ≤ c ∧ c ≤ 'z') ∧
    ∀ a b shortest longest shortest' longest', check a shortest longest = .ok () →
      check b shortest' longest' = .ok () → (key a = key b ↔ sameWord a b = true) := by
  refine ⟨fun _ _ _ => check_eq_ok_iff, ?_, ?_⟩
  · intro name shortest longest h c hc
    exact bounds_of_mayFollow (mayFollow_iff.mpr ((check_eq_ok_iff.mp h).alphabet c hc))
  · intro a b shortest longest shortest' longest' ha hb
    rw [key_of_wellFormed (check_eq_ok_iff.mp ha), key_of_wellFormed (check_eq_ok_iff.mp hb),
      String.ofList_inj, sameWord, beq_iff_eq]

/-- One name in two spellings, which are accepted under different bounds. With a space at its end it
is no name. -/
theorem saintMary_names_exact :
    check "St Mary's" 3 9 = .ok () ∧ WellFormed "St Mary's" 3 9 ∧
    check "ST MARY'S" 3 32 = .ok () ∧ key "St Mary's" = key "ST MARY'S" ∧
    key "St Mary's" ≠ key "St Mary-s" ∧ ¬WellFormed "St Mary's " 3 32 := by
  obtain ⟨haccepts, -, hkey⟩ := names_exact
  have hshort : check "St Mary's" 3 9 = .ok () := by rfl
  have hloud : check "ST MARY'S" 3 32 = .ok () := by rfl
  have hother : check "St Mary-s" 3 32 = .ok () := by rfl
  have hblank : check "St Mary's " 3 32 ≠ .ok () := by decide +kernel
  refine ⟨hshort,(haccepts _ _ _).mp hshort,hloud, ?_, ?_,fun h => hblank ((haccepts _ _ _).mpr h)⟩
  · exact (hkey _ _ _ _ _ _ hshort hloud).mpr (by decide +kernel)
  · intro heq
    exact absurd ((hkey _ _ _ _ _ _ hshort hother).mp heq) (by decide +kernel)

end VillageName

end Freehold
