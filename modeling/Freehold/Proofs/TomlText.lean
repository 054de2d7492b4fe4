import Freehold.Toml.Document
import Mathlib.Data.List.TakeDrop

/-!
Documents of one pair a line, with bare keys, decimal integers and texts in double quotes. Reading
such a document sets its pairs one after another.
-/

namespace Freehold.Toml

section Numbers

theorem value?_of_isDigit {c : Char} (h : c.isDigit = true) :
    Digits.value? c = some (c.toNat-48) := by
  have hn : 48 ≤ c.toNat ∧ c.toNat ≤ 57 := Char.isDigit_iff_toNat.mp h
  rw [Digits.value?, if_pos hn]

theorem isDigitOf_ten {c : Char} (h : c.isDigit = true) : isDigitOf 10 c = true := by
  have hn : 48 ≤ c.toNat ∧ c.toNat ≤ 57 := Char.isDigit_iff_toNat.mp h
  rw [isDigitOf, value?_of_isDigit h]
  exact decide_eq_true (by omega)

theorem digitsAfter_of_isDigit {ds : List Char} (h : ∀ c ∈ ds, c.isDigit = true) :
    digitsAfter (isDigitOf 10) ds = some ds := by
  induction ds with
  | nil => rfl
  | cons c ds ih =>
    obtain ⟨hc, hds⟩ := List.forall_mem_cons.mp h
    have hno : c ≠ '_' := fun h => by rw [h] at hc; cases hc
    -- an underscore may come before a digit, but there is none
    unfold digitsAfter
    split
    · next heq => cases heq
    · next heq => exact absurd (List.cons.inj heq).1 hno
    · next heq =>
      obtain ⟨rfl, rfl⟩ := List.cons.inj heq
      rw [if_pos (isDigitOf_ten hc), ih hds]
      rfl

/-- A number is what its digits say. -/
theorem valueOf_toDigits (n : Nat) : valueOf 10 (Nat.toDigits 10 n) = n := by
  induction n using Nat.strongRecOn with
  | ind n ih =>
    by_cases h : n < 10
    · rw [Nat.toDigits_of_lt_base h, valueOf, List.foldl_cons, List.foldl_nil,
        Digits.value?_digitChar (by omega)]
      exact Nat.zero_add n
    · have hbase : 10 ≤ n := Nat.le_of_not_lt h
      have hdigit : n%10 < 16 := by omega
      have hfirst := ih (n/10) (by omega)
      rw [valueOf] at hfirst
      rw [Nat.toDigits_of_base_le (by decide) hbase, valueOf, List.foldl_append, hfirst,
        List.foldl_cons, List.foldl_nil, Digits.value?_digitChar hdigit]
      exact Nat.div_add_mod n 10

theorem isDigit_of_mem_digits {n : Nat} {c : Char} (h : c ∈ Nat.toDigits 10 n) :
    c.isDigit = true := Nat.isDigit_of_mem_toDigits (by decide) (Nat.le_refl 10) h

/-- The digits of a positive number do not start with a zero. -/
theorem toDigits_ne_zero_cons {n : Nat} (h : n ≠ 0) (cs : List Char) :
    Nat.toDigits 10 n ≠ '0' :: cs := by
  induction n using Nat.strongRecOn generalizing cs with
  | ind n ih =>
    by_cases hlt : n < 10
    · have hnonzero : ∀ d : Fin 10, d.val ≠ 0 → Nat.digitChar d.val ≠ '0' := by decide
      rw [Nat.toDigits_of_lt_base hlt]
      exact fun heq => hnonzero ⟨n,hlt⟩ h (List.cons.inj heq).1
    · have hbase : 10 ≤ n := Nat.le_of_not_lt hlt
      have hfirst := ih (n/10) (by omega) (by omega)
      rw [Nat.toDigits_of_base_le (by decide) hbase]
      cases hds : Nat.toDigits 10 (n/10) with
      | nil => exact absurd hds Nat.toDigits_ne_nil
      | cons c ds =>
        rw [List.cons_append]
        intro heq
        obtain ⟨rfl, -⟩ := List.cons.inj heq
        exact hfirst ds hds

theorem toDigits_ne_cons {n : Nat} {c : Char} (hc : c.isDigit = false) (cs : List Char) :
    Nat.toDigits 10 n ≠ c :: cs := by
  intro heq
  have hmem : c ∈ Nat.toDigits 10 n := by rw [heq]; exact List.mem_cons_self
  rw [isDigit_of_mem_digits hmem] at hc
  cases hc

theorem digits_toDigits (n : Nat) :
    digits (isDigitOf 10) (Nat.toDigits 10 n) = some (Nat.toDigits 10 n) := by
  cases hds : Nat.toDigits 10 n with
  | nil => exact absurd hds Nat.toDigits_ne_nil
  | cons c ds =>
    have hall : ∀ d ∈ c :: ds, d.isDigit = true := fun d hd => isDigit_of_mem_digits (hds ▸ hd)
    obtain ⟨hc, hrest⟩ := List.forall_mem_cons.mp hall
    rw [digits, if_pos (isDigitOf_ten hc), digitsAfter_of_isDigit hrest]
    rfl

theorem decimal_toDigits (n : Nat) : decimal (Nat.toDigits 10 n) = some n := by
  by_cases h : n = 0
  · rw [h]
    rfl
  · -- only zero starts with a zero
    unfold decimal
    rw [digits_toDigits]
    split
    · next heq => exact absurd (Option.some.inj heq) (toDigits_ne_zero_cons h _)
    · next heq => exact absurd (Option.some.inj heq) (toDigits_ne_zero_cons h _)
    · next heq => rw [← Option.some.inj heq, valueOf_toDigits]
    · next heq => cases heq

/-- A decimal number is not one of another base, and it has no sign. -/
theorem integer_toDigits (n : Nat) : integer (Nat.toDigits 10 n) = some n := by
  by_cases h : n = 0
  · rw [h]
    rfl
  · have hunsigned : unsigned (Nat.toDigits 10 n) = (false,Nat.toDigits 10 n) := by
      unfold unsigned
      split
      · next heq => exact absurd heq (toDigits_ne_cons rfl _)
      · next heq => exact absurd heq (toDigits_ne_cons rfl _)
      · rfl
    unfold integer
    split
    · next heq => exact absurd heq (toDigits_ne_zero_cons h _)
    · next heq => exact absurd heq (toDigits_ne_zero_cons h _)
    · next heq => exact absurd heq (toDigits_ne_zero_cons h _)
    · rw [hunsigned]
      dsimp only
      rw [decimal_toDigits]
      rfl

/-- A decimal number is an integer of TOML as long as 64 bits hold it. -/
theorem scalar_toDigits {n : Nat} (h : (n : Int) ≤ Int64.maxValue.toInt) :
    scalar (Nat.toDigits 10 n) = some (.int n) := by
  have htrue : "true".toList = 't' :: ['r','u','e'] := by decide
  have hfalse : "false".toList = 'f' :: ['a','l','s','e'] := by decide
  have hrange : inRange n = true := by
    have hmin : Int64.minValue.toInt ≤ (n : Int) :=
      Int.le_trans (by decide) (Int.natCast_nonneg n)
    rw [inRange, decide_eq_true hmin, decide_eq_true h]
    rfl
  unfold scalar
  rw [htrue, hfalse, if_neg (toDigits_ne_cons rfl _), if_neg (toDigits_ne_cons rfl _),
    integer_toDigits]
  exact if_pos hrange

end Numbers

section Words

theorem span_append {p : Char → Bool} {cs : List Char} {c : Char} {rest : List Char}
    (h : ∀ d ∈ cs, p d = true) (hc : p c = false) : (cs ++ c :: rest).span p = (cs,c :: rest) := by
  rw [List.span_eq_takeWhile_dropWhile, List.takeWhile_append_of_pos h,
    List.dropWhile_append_of_pos h, List.takeWhile_cons, List.dropWhile_cons, hc]
  simp

/-- An unquoted value ends with its line. -/
theorem word_toDigits {n : Nat} (h : (n : Int) ≤ Int64.maxValue.toInt) (rest : List Char) :
    word (Nat.toDigits 10 n ++ '\n' :: rest) = some (.int n,'\n' :: rest) := by
  have hall : ∀ c ∈ Nat.toDigits 10 n, isWordChar c = true := by
    intro c hc
    have halnum : c.isAlphanum = true := by
      rw [Char.isAlphanum, isDigit_of_mem_digits hc, Bool.or_true]
    rw [isWordChar, halnum]
    rfl
  rw [word, span_append hall rfl]
  dsimp only
  rw [scalar_toDigits h]
  rfl

def IsUnescaped (c : Char) : Prop := isPlain c = true ∧ c ≠ '"' ∧ c ≠ '\\'

instance (c : Char) : Decidable (IsUnescaped c) :=
  inferInstanceAs (Decidable (isPlain c = true ∧ c ≠ '"' ∧ c ≠ '\\'))

/-- Text without escapes stands for itself, up to the closing quote. -/
theorem basic_append {s rest : List Char} {size : Nat} (hsize : s.length < size)
    (h : ∀ c ∈ s, IsUnescaped c) : basic size (s ++ '"' :: rest) = some (s,rest) := by
  induction s generalizing size with
  | nil =>
    cases size with
    | zero => cases hsize
    | succ size => rfl
  | cons c s ih =>
    obtain ⟨⟨hplain, hquote, hslash⟩, hrest⟩ := List.forall_mem_cons.mp h
    cases size with
    | zero => cases hsize
    | succ size =>
      have hs := ih (Nat.lt_of_succ_lt_succ hsize) hrest
      rw [List.cons_append, basic, if_pos hplain, hs]
      · rfl
      · exact hquote
      · exact hslash

/-- Text in double quotes is read to its end, when it is not the start of a longer quotation. -/
theorem quoted_append {s : List Char} (h : ∀ c ∈ s, IsUnescaped c) (rest : List Char) :
    quoted ('"' :: (s ++ '"' :: '\n' :: rest)) = some (s,'\n' :: rest) := by
  -- even an empty text does not start a longer quotation, for the line ends after it
  have htriple : ¬(tripleQuote '"' <+: '"' :: (s ++ '"' :: '\n' :: rest)) := by
    intro hprefix
    obtain ⟨-, hsecond⟩ := List.cons_prefix_cons.mp hprefix
    cases s with
    | nil =>
      obtain ⟨-, hthird⟩ := List.cons_prefix_cons.mp hsecond
      exact absurd (List.cons_prefix_cons.mp hthird).1 (by decide)
    | cons c s =>
      have hquote : '"' = c := (List.cons_prefix_cons.mp hsecond).1
      exact (h c List.mem_cons_self).2.1 hquote.symm
  have hsingle : ¬(tripleQuote singleQuote <+: '"' :: (s ++ '"' :: '\n' :: rest)) := fun hprefix =>
    absurd (List.cons_prefix_cons.mp hprefix).1 (by decide)
  have hlength : s.length < (s ++ '"' :: '\n' :: rest).length + 1 := by
    rw [List.length_append]
    omega
  rw [quoted, if_neg htriple, if_neg hsingle, quotedLine, if_pos rfl]
  exact basic_append hlength h

def Value.chars : Value → List Char
  | .int n => Nat.toDigits 10 n.toNat
  | .text s => '"' :: (s.toList ++ ['"'])
  | _ => []

/-- Integers of 64 bits without a sign, and texts that need no escapes. -/
def Value.IsSimple : Value → Prop
  | .int n => 0 ≤ n ∧ n ≤ Int64.maxValue.toInt
  | .text s => ∀ c ∈ s.toList, IsUnescaped c
  | _ => False

/-- Values in their plainest form are read as they are written. -/
theorem value_chars {v : Value} (h : v.IsSimple) (steps levels : Nat) (rest : List Char) :
    value (steps+1) levels (v.chars ++ '\n' :: rest) = some (v,'\n' :: rest) := by
  cases v with
  | int n =>
    obtain ⟨hpos, hmax⟩ := h
    have hcast : (n.toNat : Int) = n := Int.toNat_of_nonneg hpos
    have hword := word_toDigits (n := n.toNat) (by omega) rest
    rw [hcast] at hword
    rw [Value.chars]
    cases hds : Nat.toDigits 10 n.toNat with
    | nil => exact absurd hds Nat.toDigits_ne_nil
    | cons c ds =>
      have hno (d : Char) (hd : d.isDigit = false) : c ≠ d := by
        intro heq
        exact toDigits_ne_cons hd ds (heq ▸ hds)
      have hquote : (c == '"' || c == singleQuote) = false := by
        rw [beq_eq_false_iff_ne.mpr (hno '"' rfl), beq_eq_false_iff_ne.mpr (hno singleQuote rfl)]
        rfl
      rw [hds, List.cons_append] at hword
      rw [List.cons_append, value, hquote]
      · exact hword
      · exact fun _ => hno '[' rfl
      · exact fun _ => hno '{' rfl
      · exact fun _ _ => hno '[' rfl
      · exact fun _ _ => hno '{' rfl
  | text s =>
    rw [Value.chars, List.cons_append, List.append_assoc]
    show (quoted _).map _ = _
    rw [List.cons_append, List.nil_append, quoted_append h, Option.map_some]
    dsimp only
    rw [String.ofList_toList]
  | _ => exact h.elim

theorem skipSpaces_chars {v : Value} (h : v.IsSimple) (rest : List Char) :
    skipSpaces (' ' :: (v.chars ++ rest)) = v.chars ++ rest := by
  have hstart : ∃ c cs, v.chars = c :: cs ∧ isSpace c = false := by
    cases v with
    | int n =>
      cases hds : Nat.toDigits 10 n.toNat with
      | nil => exact absurd hds Nat.toDigits_ne_nil
      | cons c ds =>
        have hno (d : Char) (hd : d.isDigit = false) : (c == d) = false := by
          refine beq_eq_false_iff_ne.mpr fun heq => ?_
          exact toDigits_ne_cons hd ds (heq ▸ hds)
        refine ⟨c,ds,hds,?_⟩
        rw [isSpace, hno ' ' rfl, hno '\t' rfl]
        rfl
    | text s => exact ⟨_,_,rfl,rfl⟩
    | _ => exact h.elim
  obtain ⟨c, cs, hchars, hc⟩ := hstart
  rw [hchars, List.cons_append, skipSpaces, List.dropWhile_cons_of_pos rfl,
    List.dropWhile_cons_of_neg (by rw [hc]; decide)]

end Words

section Keys

structure IsBare (key : String) : Prop where
  ne_nil : key.toList ≠ []
  all_bare : ∀ c ∈ key.toList, isBareKeyChar c = true

instance (key : String) : Decidable (IsBare key) :=
  decidable_of_iff (key.toList ≠ [] ∧ key.toList.all isBareKeyChar = true)
    ⟨fun h => ⟨h.1,List.all_eq_true.mp h.2⟩,fun h => ⟨h.ne_nil,List.all_eq_true.mpr h.all_bare⟩⟩

/-- Bare keys begin with no blank, no bracket and no other sign. -/
theorem IsBare.exists_cons {key : String} (h : IsBare key) :
    ∃ c cs, key.toList = c :: cs ∧ isBareKeyChar c = true := by
  cases hkey : key.toList with
  | nil => exact absurd hkey h.ne_nil
  | cons c cs =>
    have hc : c ∈ key.toList := by rw [hkey]; exact List.mem_cons_self
    exact ⟨c,cs,rfl,h.all_bare c hc⟩

theorem ne_of_isBareKeyChar {c d : Char} (hc : isBareKeyChar c = true)
    (hd : isBareKeyChar d = false) : c ≠ d := fun h => by
  rw [h, hd] at hc
  cases hc

theorem skipSpaces_of_isBareKeyChar {c : Char} (h : isBareKeyChar c = true) (cs : List Char) :
    skipSpaces (c :: cs) = c :: cs := by
  have hspace : isSpace c = false := by
    rw [isSpace, beq_eq_false_iff_ne.mpr (ne_of_isBareKeyChar h (by decide)),
      beq_eq_false_iff_ne.mpr (ne_of_isBareKeyChar h (by decide))]
    rfl
  rw [skipSpaces, List.dropWhile_cons, hspace]
  rfl

theorem simpleKey_append {key : String} (h : IsBare key) {c : Char} (hc : isBareKeyChar c = false)
    (rest : List Char) : simpleKey (skipSpaces (key.toList ++ c :: rest)) = some (key,c :: rest) := by
  obtain ⟨d, ds, hkey, hd⟩ := h.exists_cons
  have hskip : skipSpaces (key.toList ++ c :: rest) = key.toList ++ c :: rest := by
    rw [hkey, List.cons_append, skipSpaces_of_isBareKeyChar hd]
  rw [hskip, simpleKey, span_append h.all_bare hc]
  dsimp only
  rw [if_pos h.ne_nil, String.ofList_toList]

def keyChars : List String → String → List Char
  | [], key => key.toList
  | part :: path, key => part.toList ++ '.' :: keyChars path key

/-- A dotted key is read in its parts, as long as they are not too many. -/
theorem keyParts_keyChars {path : List String} {key : String} (hpath : ∀ part ∈ path, IsBare part)
    (hkey : IsBare key) {parts : Nat} (hlt : path.length < parts) (rest : List Char) :
    keyParts parts (keyChars path key ++ ' ' :: '=' :: rest) = some ((path,key),'=' :: rest) := by
  induction path generalizing parts with
  | nil =>
    cases parts with
    | zero => cases hlt
    | succ parts =>
      rw [keyChars, keyParts, simpleKey_append hkey (by decide)]
      rfl
  | cons part path ih =>
    obtain ⟨hpart, hrest⟩ := List.forall_mem_cons.mp hpath
    cases parts with
    | zero => cases hlt
    | succ parts =>
      have hlater := ih hrest (Nat.lt_of_succ_lt_succ hlt)
      rw [keyChars, List.append_assoc, List.cons_append, keyParts,
        simpleKey_append hpart (by decide)]
      show (keyParts parts _).map _ = _
      rw [hlater]
      rfl

end Keys

section Lines

structure Pair where
  path : List String
  key : String
  value : Value

namespace Pair

structure IsSimple (p : Pair) : Prop where
  path_bare : ∀ part ∈ p.path, IsBare part
  key_bare : IsBare p.key
  length_path : p.path.length < nesting
  value_simple : p.value.IsSimple

def chars (p : Pair) : List Char :=
  keyChars p.path p.key ++ ' ' :: '=' :: ' ' :: (p.value.chars ++ ['\n'])

def set (r : Reading) (p : Pair) : Option Reading := r.set p.path p.key p.value

end Pair

theorem isSimple_int {path : List String} {key : String} {n : Nat}
    (hkeys : (∀ part ∈ path, IsBare part) ∧ IsBare key ∧ path.length < nesting)
    (hn : n ≤ 9223372036854775807) : Pair.IsSimple ⟨path,key,.int n⟩ := by
  have hmax : Int64.maxValue.toInt = 9223372036854775807 := by decide
  obtain ⟨hpath, hkey, hlength⟩ := hkeys
  refine ⟨hpath,hkey,hlength,Int.natCast_nonneg n,?_⟩
  rw [hmax]
  omega

theorem isSimple_text {path : List String} {key s : String}
    (hkeys : (∀ part ∈ path, IsBare part) ∧ IsBare key ∧ path.length < nesting)
    (hs : s.toList.all (fun c => decide (IsUnescaped c)) = true) :
    Pair.IsSimple ⟨path,key,.text s⟩ := by
  obtain ⟨hpath, hkey, hlength⟩ := hkeys
  exact ⟨hpath,hkey,hlength,fun c hc => of_decide_eq_true (List.all_eq_true.mp hs c hc)⟩

theorem exists_keyChars_eq_cons {path : List String} {key : String}
    (hpath : ∀ part ∈ path, IsBare part) (hkey : IsBare key) :
    ∃ c cs, keyChars path key = c :: cs ∧ isBareKeyChar c = true := by
  cases path with
  | nil => exact hkey.exists_cons
  | cons part path =>
    obtain ⟨c, cs, hpart, hc⟩ := (List.forall_mem_cons.mp hpath).1.exists_cons
    rw [keyChars, hpart]
    exact ⟨c,_,rfl,hc⟩

theorem Pair.IsSimple.exists_cons {p : Pair} (h : p.IsSimple) (rest : List Char) :
    ∃ c cs, p.chars ++ rest = c :: cs ∧ isBareKeyChar c = true := by
  obtain ⟨c, cs, hkey, hc⟩ := exists_keyChars_eq_cons h.path_bare h.key_bare
  rw [Pair.chars, hkey]
  exact ⟨c,_,rfl,hc⟩

/-- A line that begins with a key is not passed over. -/
theorem skipLines_of_isBareKeyChar {c : Char} (h : isBareKeyChar c = true) (cs : List Char) :
    skipLines false (c :: cs) = c :: cs := by
  have hne (d : Char) (hd : isBareKeyChar d = false) : c ≠ d := ne_of_isBareKeyChar h hd
  have hspace : isSpace c = false := by
    rw [isSpace, beq_eq_false_iff_ne.mpr (hne ' ' (by decide)),
      beq_eq_false_iff_ne.mpr (hne '\t' (by decide))]
    rfl
  rw [skipLines, if_neg (hne '\n' (by decide)), if_neg (by decide), hspace,
    if_neg (by decide), if_neg (hne '#' (by decide))]
  exact fun _ hreturn => absurd hreturn (hne '\r' (by decide))

/-- A line is read as its pair, up to its end. -/
theorem line_chars {p : Pair} (h : p.IsSimple) (r : Reading) (steps : Nat) (rest : List Char) :
    line (steps+1) r (p.chars ++ rest) = (p.set r).map fun r => (r,'\n' :: rest) := by
  have hkey : dottedKey (p.chars ++ rest) =
      some ((p.path,p.key),'=' :: ' ' :: (p.value.chars ++ '\n' :: rest)) := by
    have hparts := keyParts_keyChars h.path_bare h.key_bare h.length_path
      (' ' :: (p.value.chars ++ '\n' :: rest))
    rw [dottedKey, Pair.chars, ← hparts]
    simp
  -- a key begins the line, so it is no header
  obtain ⟨c, cs, hchars, hc⟩ := h.exists_cons rest
  have hbracket (cs : List Char) : p.chars ++ rest ≠ '[' :: cs := by
    rw [hchars]
    exact fun heq => ne_of_isBareKeyChar hc (by decide) (List.cons.inj heq).1
  unfold line
  split
  · next heq => exact absurd heq (hbracket _)
  · next heq => exact absurd heq (hbracket _)
  · simp only [hkey, skipSpaces_chars h.value_simple, value_chars h.value_simple]
    rfl

/-- A document of pairs sets them one after another. -/
theorem lines_flatMap {pairs : List Pair} (h : ∀ p ∈ pairs, p.IsSimple) (r : Reading) {steps : Nat}
    (hsteps : pairs.length < steps) :
    lines steps r (pairs.flatMap Pair.chars) = pairs.foldlM Pair.set r := by
  induction pairs generalizing r steps with
  | nil =>
    cases steps with
    | zero => cases hsteps
    | succ steps => rfl
  | cons p pairs ih =>
    obtain ⟨hp, hrest⟩ := List.forall_mem_cons.mp h
    cases steps with
    | zero => cases hsteps
    | succ steps =>
      have hlater (r : Reading) := ih hrest r (Nat.lt_of_succ_lt_succ hsteps)
      have hline := line_chars hp r steps (pairs.flatMap Pair.chars)
      obtain ⟨c, rest, hcons, hc⟩ := hp.exists_cons (pairs.flatMap Pair.chars)
      rw [List.flatMap_cons, hcons, lines, skipLines_of_isBareKeyChar hc]
      dsimp only
      rw [← hcons, hline, List.foldlM_cons]
      cases p.set r with
      | none => rfl
      | some r => exact hlater r

/-- A document has at least as many characters as pairs, which is fuel enough to read it. -/
theorem length_le_flatMap (pairs : List Pair) :
    pairs.length ≤ (pairs.flatMap Pair.chars).length := by
  induction pairs with
  | nil => exact Nat.le_refl 0
  | cons p pairs ih =>
    have hline : 1 ≤ p.chars.length := by
      rw [Pair.chars, List.length_append, List.length_cons]
      omega
    rw [List.flatMap_cons, List.length_append, List.length_cons]
    omega

/-- The document that pairs are written as holds what is set by them. -/
theorem parse?_flatMap {pairs : List Pair} (h : ∀ p ∈ pairs, p.IsSimple) :
    parse? (String.ofList (pairs.flatMap Pair.chars)) =
      (pairs.foldlM Pair.set {}).map fun r => .table (Fields.toValues r.root) := by
  have hmark : dropByteOrderMark (pairs.flatMap Pair.chars) = pairs.flatMap Pair.chars := by
    cases pairs with
    | nil => rfl
    | cons p pairs =>
      obtain ⟨c, cs, hcons, hc⟩ :=
        (h p List.mem_cons_self).exists_cons (pairs.flatMap Pair.chars)
      have hne : c.toNat ≠ 0xFEFF := by
        intro hmark
        have heq : c = Char.ofNat 0xFEFF := by rw [← hmark, Char.ofNat_toNat]
        exact ne_of_isBareKeyChar hc (by decide) heq
      rw [List.flatMap_cons, hcons, dropByteOrderMark, if_neg hne]
  unfold parse?
  rw [String.toList_ofList, hmark]
  dsimp only
  rw [lines_flatMap h {} (Nat.lt_succ_of_le (length_le_flatMap pairs))]

end Lines

end Freehold.Toml
