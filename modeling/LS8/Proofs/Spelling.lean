import LS8.Alu
import Mathlib.Data.List.Forall2

/-!
# Spellings of names

The name of an operation may be written in any mix of cases. A letter of it has two spellings, but
`S` has a third one, the long s. Some characters have several letters as their upper-case form, and
none of these makes a part of a name.

* `Spells`: the spellings of a capital letter;
* `upperChar_eq_toUpper`: the upper-case forms of the characters of a single byte;
* `upperChar_cases`: the three ways in which a character gets its upper-case form;
* `IsWord`: the words that are spelled letter by letter;
* `not_isSmall_of_mem_upperChar`: an upper-case form has no small letter in it;
* **`upperChar_eq_singleton_iff`**: the spellings of a letter are the characters whose upper-case
  form it is;
* **`upperCase_eq_iff`**: the texts with a word as their upper-case form are its spellings;
* **`ofName_spelling`**: a text designates an operation exactly if it spells its name.
-/

set_option autoImplicit false

namespace LS8

/-- The character stands for the capital letter: it is that letter, the small letter, or, for `S`,
the long s. -/
def Spells (c letter : Char) : Prop := c = letter ∨ c = letter.toLower ∨ c = 'ſ' ∧ letter = 'S'

instance (c letter : Char) : Decidable (Spells c letter) := inferInstanceAs (Decidable (_ ∨ _))

/-! ## The tables -/

section Tables

theorem upperExpansions_long : ∀ entry ∈ upperExpansions, 2 ≤ entry.2.length := by
  decide +kernel

theorem upperExpansions_not_ascii : ∀ entry ∈ upperExpansions, 0x80 ≤ entry.1.toNat := by
  decide +kernel

theorem upperExpansions_not_isSmall :
    ∀ entry ∈ upperExpansions, entry.2.all (fun u => !u.isLower && u != 'ſ') = true := by
  decide +kernel

/-- No name has a part that is the upper-case form of a single character. -/
theorem upperExpansions_not_infix :
    ∀ entry ∈ upperExpansions, ∀ op ∈ AluOp.all, ¬ entry.2 <:+: op.name.toList := by
  decide +kernel

/-- The run of the small letters. -/
def smallLetters : CaseRun := ⟨0x61, 0x7a, 1, 0x41⟩

theorem upperRuns_eq : upperRuns = smallLetters :: upperRuns.tail := rfl

theorem upperRuns_not_ascii : ∀ run ∈ upperRuns.tail, 0x80 ≤ run.first := by
  decide +kernel

/-- Of the characters of several bytes, only the long s and the i without a dot become letters. -/
theorem upperRuns_letters : ∀ run ∈ upperRuns, run.last < 0x80 ∨ 0x5a < run.image ∨
    (run.first = 0x17f ∧ run.last = 0x17f ∧ run.image = 0x53) ∨
    (run.first = 0x131 ∧ run.last = 0x131 ∧ run.image = 0x49) := by
  decide +kernel

theorem upperRuns_not_isSmall : ∀ run ∈ upperRuns,
    (run.image + (run.last - run.first) < 0x61 ∨ 0x7a < run.image) ∧
      (run.image ≤ 0x17f → 0x17f ≤ run.image + (run.last - run.first) →
        (0x17f - run.image) % run.step ≠ 0) := by
  decide +kernel

theorem upperChar_longS : upperChar 'ſ' = ['S'] := by
  decide +kernel

end Tables

/-! ## Characters of a single byte -/

section SingleBytes

variable {c : Char}

/-- What holds of the first code points, one by one, holds of the characters of a single byte. -/
theorem of_lt_ascii {P : Char → Prop} (h : ∀ n < 0x80, P (Char.ofNat n)) (hc : c.toNat < 0x80) :
    P c := by
  have hn := h c.toNat hc
  rwa [Char.ofNat_toNat] at hn

/-- No other run has a character of a single byte. -/
theorem findSome?_upperRuns (hc : c.toNat < 0x80) :
    (upperRuns.findSome? fun run => run.upper? c.toNat) = smallLetters.upper? c.toNat := by
  have hothers : (upperRuns.tail.findSome? fun run => run.upper? c.toNat) = none := by
    refine List.findSome?_eq_none_iff.mpr fun run hrun => if_neg fun hcode => ?_
    exact absurd hcode.1 (Nat.not_le_of_lt (Nat.lt_of_lt_of_le hc (upperRuns_not_ascii run hrun)))
  rw [upperRuns_eq, List.findSome?_cons, hothers]
  cases smallLetters.upper? c.toNat <;> rfl

theorem upperChar_eq_toUpper (hc : c.toNat < 0x80) : upperChar c = [c.toUpper] := by
  have hform : upperExpansions.lookup c = none := by
    refine List.lookup_eq_none_iff.mpr fun entry hentry => ?_
    rw [bne_iff_ne]
    rintro rfl
    exact absurd hc (Nat.not_lt_of_le (upperExpansions_not_ascii entry hentry))
  have hletter : (smallLetters.upper? c.toNat).getD c = c.toUpper :=
    of_lt_ascii (P := fun c => (smallLetters.upper? c.toNat).getD c = c.toUpper)
      (by decide +kernel) hc
  rw [upperChar, hform, findSome?_upperRuns hc, ← hletter]
  cases smallLetters.upper? c.toNat <;> rfl

theorem spells_toUpper (hc : c.toNat < 0x80) : Spells c c.toUpper :=
  of_lt_ascii (P := fun c => Spells c c.toUpper) (by decide +kernel) hc

theorem isUpper_iff : c.isUpper = true ↔ 0x41 ≤ c.toNat ∧ c.toNat ≤ 0x5a :=
  decide_eq_true_iff

theorem isLower_iff : c.isLower = true ↔ 0x61 ≤ c.toNat ∧ c.toNat ≤ 0x7a :=
  Bool.and_eq_true_iff.trans (and_congr decide_eq_true_iff decide_eq_true_iff)

theorem toUpper_ne_of_isLower (h : c.isLower = true) : c.toUpper ≠ c := by
  have hc := (isLower_iff.mp h).2
  exact of_lt_ascii (P := fun c => c.isLower = true → c.toUpper ≠ c) (by decide +kernel)
    (by omega) h

/-- A capital letter is its own upper-case form, and that of its small letter. -/
theorem toUpper_of_isUpper (h : c.isUpper = true) :
    c.toUpper = c ∧ c.toLower.isLower = true ∧ c.toLower.toUpper = c := by
  have hc := (isUpper_iff.mp h).2
  exact of_lt_ascii (P := fun c => c.isUpper = true →
    c.toUpper = c ∧ c.toLower.isLower = true ∧ c.toLower.toUpper = c) (by decide +kernel)
    (by omega) h

end SingleBytes

/-! ## Characters -/

section Characters

variable {c letter u : Char}

/-- A character gets its upper-case form from the table of expansions, from a run, or is its own. -/
theorem upperChar_cases (c : Char) :
    (c, upperChar c) ∈ upperExpansions ∨
      (∃ run ∈ upperRuns, ∃ u, run.upper? c.toNat = some u ∧ upperChar c = [u]) ∨
      upperChar c = [c] := by
  unfold upperChar
  cases hform : upperExpansions.lookup c with
  | some form =>
    obtain ⟨before, after, htable, -⟩ := List.lookup_eq_some_iff.mp hform
    refine Or.inl ?_
    rw [htable]
    exact List.mem_append_right before List.mem_cons_self
  | none =>
    cases hrun : upperRuns.findSome? fun run => run.upper? c.toNat with
    | some u =>
      obtain ⟨run, hmem, hu⟩ := List.exists_of_findSome?_eq_some hrun
      exact Or.inr (Or.inl ⟨run, hmem, u, hu, rfl⟩)
    | none => exact Or.inr (Or.inr rfl)

/-- The code point of the upper-case form of a character in a run. -/
theorem toNat_of_upper? {run : CaseRun} {code : Nat} (h : run.upper? code = some u)
    (hu : 0 < u.toNat) :
    run.first ≤ code ∧ code ≤ run.last ∧ (code - run.first) % run.step = 0 ∧
      u.toNat = run.image + (code - run.first) := by
  unfold CaseRun.upper? at h
  split at h
  · next hcode =>
    obtain rfl := Option.some.inj h
    refine ⟨hcode.1, hcode.2.1, hcode.2.2, ?_⟩
    by_cases hvalid : (run.image + (code - run.first)).isValidChar
    · exact congrArg Char.toNat (dif_pos hvalid)
    -- A number that is no code point would stand for the first character.
    · have hzero : (Char.ofNat (run.image + (code - run.first))).toNat = 0 :=
        congrArg Char.toNat (dif_neg hvalid)
      omega
  · cases h

/-- A small letter has no place in an upper-case form, and neither has the long s. -/
theorem not_isSmall_of_mem_upperChar (h : u ∈ upperChar c) : u.isLower = false ∧ u ≠ 'ſ' := by
  rcases upperChar_cases c with hform | ⟨run, hrun, v, hv, hc⟩ | hc
  · have hsmall := List.all_eq_true.mp (upperExpansions_not_isSmall _ hform) u h
    simpa using hsmall
  · rw [hc, List.mem_singleton] at h
    subst h
    obtain ⟨hletters, hlong⟩ := upperRuns_not_isSmall run hrun
    constructor
    · rw [Bool.eq_false_iff, Ne, isLower_iff]
      rintro ⟨hlow, hhigh⟩
      obtain ⟨hfirst, hlast, -, hu⟩ := toNat_of_upper? hv (by omega)
      omega
    · rintro rfl
      obtain ⟨hfirst, hlast, hstep, hu⟩ := toNat_of_upper? hv (by decide)
      have hcode : 0x17f = run.image + (c.toNat - run.first) := hu
      refine hlong (by omega) (by omega) ?_
      rwa [hcode, Nat.add_sub_cancel_left]
  · rw [hc, List.mem_singleton] at h
    subst h
    constructor
    · rw [Bool.eq_false_iff]
      intro hlower
      have hascii := (isLower_iff.mp hlower).2
      rw [upperChar_eq_toUpper (by omega), List.singleton_inj] at hc
      exact toUpper_ne_of_isLower hlower hc
    · rintro rfl
      rw [upperChar_longS] at hc
      exact absurd hc (by decide)

/-- A letter is the upper-case form of its spellings. The i without a dot is set aside. -/
theorem upperChar_eq_singleton_iff (hletter : letter.isUpper = true) (hi : letter ≠ 'I') :
    upperChar c = [letter] ↔ Spells c letter := by
  obtain ⟨hself, hlower, hsmall⟩ := toUpper_of_isUpper hletter
  obtain ⟨hlow, hhigh⟩ := isUpper_iff.mp hletter
  constructor
  · intro h
    by_cases hc : c.toNat < 0x80
    · rw [upperChar_eq_toUpper hc, List.singleton_inj] at h
      exact h ▸ spells_toUpper hc
    · rcases upperChar_cases c with hform | ⟨run, hrun, u, hu, hu'⟩ | hown
      · have hlong := upperExpansions_long _ hform
        rw [h] at hlong
        exact absurd hlong (Nat.not_succ_le_self 1)
      · rw [h, List.singleton_inj] at hu'
        subst hu'
        obtain ⟨hfirst, hlast, -, hcode⟩ := toNat_of_upper? hu (by omega)
        rcases upperRuns_letters run hrun with hrun | hrun | hlong | hdotless
        · omega
        · omega
        · refine Or.inr (Or.inr ⟨Char.toNat_inj.mp ?_, Char.toNat_inj.mp ?_⟩)
          · change c.toNat = 0x17f
            omega
          · change letter.toNat = 0x53
            omega
        · refine absurd (Char.toNat_inj.mp ?_) hi
          change letter.toNat = 0x49
          omega
      · rw [h, List.singleton_inj] at hown
        exact Or.inl hown.symm
  · rintro (rfl | rfl | ⟨rfl, rfl⟩)
    · rw [upperChar_eq_toUpper (by omega), hself]
    · have hascii := (isLower_iff.mp hlower).2
      rw [upperChar_eq_toUpper (by omega), hsmall]
    · exact upperChar_longS

end Characters

/-! ## Words -/

section Words

/-- A word of capital letters other than `I`, with no part that is the upper-case form of a single
character. -/
structure IsWord (word : List Char) : Prop where
  letter : ∀ letter ∈ word, letter.isUpper = true ∧ letter ≠ 'I'
  part : ∀ entry ∈ upperExpansions, ¬ entry.2 <:+: word

variable {text word : List Char}

theorem IsWord.tail {letter : Char} (h : IsWord (letter :: word)) : IsWord word where
  letter := fun u hu => h.letter u (List.mem_cons_of_mem letter hu)
  part := fun entry hentry hpart =>
    h.part entry hentry (hpart.trans (List.suffix_cons _ _).isInfix)

/-- A word is spelled letter by letter. -/
theorem upperCase_eq_iff (hword : IsWord word) :
    upperCase text = word ↔ List.Forall₂ Spells text word := by
  constructor
  · intro h
    induction text generalizing word with
    | nil =>
      subst h
      exact List.Forall₂.nil
    | cons c text ih =>
      rw [upperCase, List.flatMap_cons] at h
      -- A form of several characters would be a part of the word, so this one is a single letter.
      have hsingle : ∃ letter, upperChar c = [letter] := by
        rcases upperChar_cases c with hform | ⟨-, -, u, -, hu⟩ | hown
        · refine absurd ?_ (hword.part _ hform)
          rw [← h]
          exact (List.prefix_append _ _).isInfix
        · exact ⟨u, hu⟩
        · exact ⟨c, hown⟩
      obtain ⟨letter, hletter⟩ := hsingle
      rw [hletter] at h
      subst h
      obtain ⟨hupper, hi⟩ := hword.letter letter List.mem_cons_self
      have hspells := (upperChar_eq_singleton_iff hupper hi).mp hletter
      exact List.Forall₂.cons hspells (ih hword.tail rfl)
  · intro h
    induction h with
    | nil => rfl
    | @cons c letter text word hspells _ ih =>
      obtain ⟨hupper, hi⟩ := hword.letter letter List.mem_cons_self
      have htext : upperCase text = word := ih hword.tail
      rw [upperCase, List.flatMap_cons, (upperChar_eq_singleton_iff hupper hi).mpr hspells]
      exact congrArg (letter :: ·) htext

theorem not_isSmall_of_mem_upperCase {u : Char} (h : u ∈ upperCase text) :
    u.isLower = false ∧ u ≠ 'ſ' := by
  obtain ⟨c, -, hu⟩ := List.mem_flatMap.mp h
  exact not_isSmall_of_mem_upperChar hu

/-- A word has no other spelling without small letters. -/
theorem eq_of_spells (hword : IsWord word)
    (hsmall : ∀ u ∈ text, u.isLower = false ∧ u ≠ 'ſ') (h : List.Forall₂ Spells text word) :
    text = word := by
  induction h with
  | nil => rfl
  | @cons c letter text word hspells _ ih =>
    have hletter : c = letter := by
      obtain ⟨hlower, hlong⟩ := hsmall c List.mem_cons_self
      rcases hspells with hself | rfl | ⟨hc, -⟩
      · exact hself
      · have hupper := (hword.letter letter List.mem_cons_self).1
        rw [(toUpper_of_isUpper hupper).2.1] at hlower
        cases hlower
      · exact absurd hc hlong
    rw [hletter, ih hword.tail fun u hu => hsmall u (List.mem_cons_of_mem c hu)]

end Words

namespace AluOp

variable {text : String} {op : AluOp}

theorem mem_all (op : AluOp) : op ∈ all := by
  cases op <;> decide

theorem name_inj {a b : AluOp} (h : a.name.toList = b.name.toList) : a = b := by
  cases a <;> cases b <;> first | rfl | exact absurd h (by decide)

theorem isWord_name (op : AluOp) : IsWord op.name.toList := by
  have hall : op.name.toList.all (fun u => u.isUpper && u != 'I') = true := by
    cases op <;> decide
  refine ⟨fun letter hletter => ?_, fun entry hentry => ?_⟩
  · simpa using List.all_eq_true.mp hall letter hletter
  · exact upperExpansions_not_infix entry hentry op (mem_all op)

theorem length_name : op.name.length = 3 := by
  cases op <;> rfl

theorem upperCase_eq_name_iff {text : List Char} :
    upperCase text = op.name.toList ↔ List.Forall₂ Spells text op.name.toList :=
  upperCase_eq_iff op.isWord_name

theorem ofName_eq_ok_iff :
    ofName text = .ok op ↔ upperCase text.toList = op.name.toList := by
  unfold ofName
  cases hfind : all.find? fun op => op.name.toList = upperCase text.toList with
  | some found =>
    have hname : found.name.toList = upperCase text.toList := by
      simpa using List.find?_some hfind
    rw [← hname]
    constructor
    · intro h
      rw [Except.ok.inj h]
    · intro h
      rw [name_inj h]
  | none =>
    have hname := List.find?_eq_none.mp hfind op (mem_all op)
    constructor
    · intro h
      cases h
    · intro h
      exact absurd (decide_eq_true h.symm) hname

theorem ofName_eq_ok_iff_spells :
    ofName text = .ok op ↔ List.Forall₂ Spells text.toList op.name.toList :=
  ofName_eq_ok_iff.trans upperCase_eq_name_iff

theorem ofName_eq_error {e : UnsupportedOperation} (h : ofName text = .error e) : e = ⟨text⟩ := by
  unfold ofName at h
  split at h
  · cases h
  · exact (Except.error.inj h).symm

/-- A text and its upper-case form designate the same operation. -/
theorem upperCase_upperCase_eq_name_iff {text : List Char} :
    upperCase (upperCase text) = op.name.toList ↔ upperCase text = op.name.toList := by
  constructor
  · intro h
    exact eq_of_spells op.isWord_name (fun u hu => not_isSmall_of_mem_upperCase hu)
      (upperCase_eq_name_iff.mp h)
  · intro h
    rw [h]
    exact upperCase_eq_name_iff.mpr (List.forall₂_same.mpr fun letter _ => Or.inl rfl)

theorem toOption_ofName_eq_some_iff :
    (ofName text).toOption = some op ↔ upperCase text.toList = op.name.toList := by
  rw [← ofName_eq_ok_iff]
  cases ofName text with
  | ok found =>
    constructor
    · intro h
      rw [Option.some.inj h]
    · intro h
      rw [Except.ok.inj h]
      rfl
  | error e =>
    constructor
    · intro h
      cases h
    · intro h
      cases h

/-- A text designates an operation exactly if it spells its name: it has three characters, which are
the letters of the name in any mix of cases, and the long s may stand for `S`. Any other text is
refused with an error that shows it as it was given. So a text and its upper-case form designate the
same operation or are both refused. -/
theorem ofName_spelling :
    (∀ (text : String) (op : AluOp), ofName text = .ok op ↔
        text.length = 3 ∧ List.Forall₂ Spells text.toList op.name.toList) ∧
      (∀ (text : String) (e : UnsupportedOperation), ofName text = .error e ↔
        e = ⟨text⟩ ∧ ∀ op : AluOp, ¬ List.Forall₂ Spells text.toList op.name.toList) ∧
      ∀ text : String,
        (ofName (String.ofList (upperCase text.toList))).toOption = (ofName text).toOption := by
  refine ⟨fun text op => ⟨fun h => ?_, fun h => ofName_eq_ok_iff_spells.mpr h.2⟩,
    fun text e => ⟨fun h => ?_, ?_⟩, fun text => ?_⟩
  · have hspells := ofName_eq_ok_iff_spells.mp h
    have hlength := hspells.length_eq
    rw [String.length_toList, String.length_toList, length_name] at hlength
    exact ⟨hlength, hspells⟩
  · refine ⟨ofName_eq_error h, fun op hop => ?_⟩
    rw [ofName_eq_ok_iff_spells.mpr hop] at h
    cases h
  · rintro ⟨rfl, hno⟩
    cases h : ofName text with
    | ok op => exact absurd (ofName_eq_ok_iff_spells.mp h) (hno op)
    | error e => rw [ofName_eq_error h]
  · refine Option.ext fun op => ?_
    rw [toOption_ofName_eq_some_iff, toOption_ofName_eq_some_iff, String.toList_ofList,
      upperCase_upperCase_eq_name_iff]

-- The long s spells `S`; the sharp s has `SS` as its form, which no name has.
example : (["cMp", "ſub", "AD", "ſuß"].map fun text => (ofName text).toOption) =
    [some .cmp, some .sub, none, none] := by decide +kernel

end AluOp

end LS8
