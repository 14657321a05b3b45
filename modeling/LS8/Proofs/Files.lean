import LS8.Directory
import LS8.Proofs.Status

/-!
# Files by their paths

What is read at a path is a file of the tree, and each file is read at its own path. So the command,
at work in a tree of files, loads the program that is in the file to which its argument leads.

* `Directory.resolve`: the place to which names lead, when all directories on the way are there;
* **`walk_eq_ok`**: what is found is the file at that place;
* `Directory.Separate`, `Directory.IsPlain`: trees in which no file lies below another one, and
  names that go down only;
* **`walk_plain_iff`**: each file is found by the names on the way to it;
* **`namesOf_intercalate`**: names joined by slashes are the names in the path that they make;
* **`read_eq_ok_iff`**, **`loads_read_iff`**: the file that is read at a path, and the program that
  is loaded from it.
-/

set_option autoImplicit false

namespace LS8.Directory

variable {tree : Directory} {here names : List String} {content : ByteArray}

/-- The place to which names lead. Two dots go up, and not out of the tree. -/
def resolve (here : List String) : List String → Option (List String)
  | [] => some here
  | name :: rest =>
    if stays name then resolve here rest
    else if name = ".." then if here.isEmpty then none else resolve here.dropLast rest
    else resolve (here ++ [name]) rest

/-- **What is found is the file at the place to which the names lead.** -/
theorem walk_eq_ok (h : tree.walk here names = .ok content) :
    ∃ there, resolve here names = some there ∧ tree.files.lookup there = some content := by
  induction names generalizing here with
  | nil => cases h
  | cons name rest ih =>
    rw [walk] at h
    rw [resolve]
    by_cases hstays : stays name = true
    · rw [if_pos hstays] at h ⊢
      exact ih h
    rw [if_neg hstays] at h ⊢
    by_cases hup : name = ".."
    · rw [if_pos hup] at h ⊢
      by_cases htop : here.isEmpty = true
      · rw [if_pos htop] at h
        cases h
      · rw [if_neg htop] at h ⊢
        exact ih h
    · rw [if_neg hup] at h ⊢
      cases hfile : tree.files.lookup (here ++ [name]) with
      | none =>
        simp only [hfile] at h
        split at h
        · exact ih h
        · cases h
      | some found =>
        simp only [hfile] at h
        split at h
        · next hrest =>
          rw [List.isEmpty_iff.mp hrest]
          exact ⟨here ++ [name], rfl, hfile.trans (congrArg some (Except.ok.inj h))⟩
        · cases h

example (content : ByteArray) :
    walk ⟨[(["lib", "three"], content)], 0⟩ [] ["lib", ".", "..", "lib", "three"] =
      .ok content := by
  rfl

/-! ## Plain names -/

/-- No file lies below another one. -/
def Separate (tree : Directory) : Prop :=
  ∀ file ∈ tree.files, ∀ below ∈ tree.files, file.1 <+: below.1 → file.1 = below.1

/-- The name goes down. -/
def IsPlain (name : String) : Prop := stays name = false ∧ name ≠ ".."

instance (name : String) : Decidable (IsPlain name) := inferInstanceAs (Decidable (_ ∧ _))

theorem mem_files (h : tree.files.lookup names = some content) : (names, content) ∈ tree.files := by
  obtain ⟨before, after, hfiles, -⟩ := List.lookup_eq_some_iff.mp h
  rw [hfiles]
  exact List.mem_append_right before List.mem_cons_self

theorem resolve_plain (h : ∀ name ∈ names, IsPlain name) :
    resolve here names = some (here ++ names) := by
  induction names generalizing here with
  | nil => rw [resolve, List.append_nil]
  | cons name rest ih =>
    obtain ⟨hstays, hdown⟩ := h name List.mem_cons_self
    rw [resolve, hstays, if_neg Bool.false_ne_true, if_neg hdown,
      ih fun n hn => h n (List.mem_cons_of_mem name hn), List.append_assoc]
    rfl

/-- On the way to a file there are directories only. -/
theorem walk_of_lookup (hseparate : tree.Separate) (h : ∀ name ∈ names, IsPlain name)
    (hnames : names ≠ []) (hfile : tree.files.lookup (here ++ names) = some content) :
    tree.walk here names = .ok content := by
  induction names generalizing here with
  | nil => exact absurd rfl hnames
  | cons name rest ih =>
    obtain ⟨hstays, hdown⟩ := h name List.mem_cons_self
    rw [walk, hstays, if_neg Bool.false_ne_true, if_neg hdown]
    have hway : here ++ name :: rest = (here ++ [name]) ++ rest := by
      rw [List.append_assoc]
      rfl
    rw [hway] at hfile
    by_cases hrest : rest = []
    · subst hrest
      rw [List.append_nil] at hfile
      simp [hfile]
    · have hbelow : here ++ [name] <+: here ++ [name] ++ rest := List.prefix_append _ _
      have hnone : tree.files.lookup (here ++ [name]) = none := by
        rw [Option.eq_none_iff_forall_ne_some]
        intro found hfound
        have hsame := hseparate _ (mem_files hfound) _ (mem_files hfile) hbelow
        exact hrest (List.self_eq_append_right.mp hsame)
      have hthere : tree.contains (here ++ [name]) = true := by
        rw [contains, Bool.or_eq_true]
        refine Or.inr (List.any_eq_true.mpr ⟨_, mem_files hfile, ?_⟩)
        exact List.isPrefixOf_iff_prefix.mpr hbelow
      simp only [hnone, hthere, if_true]
      exact ih (fun n hn => h n (List.mem_cons_of_mem name hn)) hrest hfile

/-- **Each file is found by the names on the way to it**, and nothing else is by such names. -/
theorem walk_plain_iff (hseparate : tree.Separate) (h : ∀ name ∈ names, IsPlain name)
    (hnames : names ≠ []) :
    tree.walk here names = .ok content ↔ tree.files.lookup (here ++ names) = some content := by
  refine ⟨fun hwalk => ?_, walk_of_lookup hseparate h hnames⟩
  obtain ⟨there, hresolve, hfile⟩ := walk_eq_ok hwalk
  rw [resolve_plain h] at hresolve
  rwa [Option.some.inj hresolve]

/-! ## Paths -/

section Paths

variable {path : String} {p : Program}

theorem divide_append {name : List Char} (h : '/' ∉ name) (rest : List Char) :
    divide (name ++ '/' :: rest) = name :: divide rest := by
  induction name with
  | nil => rfl
  | cons c name ih =>
    have hc : c ≠ '/' := fun hc => h (hc ▸ List.mem_cons_self)
    rw [List.cons_append, divide, if_neg hc, ih (List.not_mem_of_not_mem_cons h)]

theorem divide_eq_singleton {name : List Char} (h : '/' ∉ name) : divide name = [name] := by
  induction name with
  | nil => rfl
  | cons c name ih =>
    have hc : c ≠ '/' := fun hc => h (hc ▸ List.mem_cons_self)
    rw [divide, if_neg hc, ih (List.not_mem_of_not_mem_cons h)]

theorem divide_intercalate {names : List (List Char)} (h : ∀ name ∈ names, '/' ∉ name)
    (hnames : names ≠ []) : divide (['/'].intercalate names) = names := by
  induction names with
  | nil => exact absurd rfl hnames
  | cons name names ih =>
    have hname := h name List.mem_cons_self
    cases names with
    | nil => rw [List.intercalate_singleton, divide_eq_singleton hname]
    | cons next names =>
      rw [List.intercalate_cons_cons, List.append_assoc, List.singleton_append,
        divide_append hname, ih (fun n hn => h n (List.mem_cons_of_mem name hn)) nofun]

/-- Names joined by slashes are the names in the path that they make. -/
theorem namesOf_intercalate (h : ∀ name ∈ names, '/' ∉ name.toList) (hnames : names ≠ []) :
    namesOf ("/".intercalate names) = names := by
  have hdivide : divide (['/'].intercalate (names.map String.toList)) = names.map String.toList :=
    divide_intercalate (by simpa using h) (by simpa using hnames)
  rw [namesOf, String.toList_intercalate]
  exact (congrArg _ hdivide).trans (by simp)

/-- The names that lead to a file make a path that leads to it. -/
structure IsPath (names : List String) : Prop where
  ne_nil : names ≠ []
  plain : ∀ name ∈ names, IsPlain name
  undivided : ∀ name ∈ names, '/' ∉ name.toList
  visible : '\x00' ∉ ("/".intercalate names).toList
  short : ("/".intercalate names).utf8ByteSize < pathLimit

example : IsPath ["lib", "three"] := by
  constructor <;> decide +kernel

/-- A path of plain names starts with one of them. -/
theorem IsPath.read_eq (h : IsPath names) (tree : Directory) :
    tree.read ("/".intercalate names) = tree.walk [] names := by
  have hnames := namesOf_intercalate h.undivided h.ne_nil
  have hfetch : tree.fetch ("/".intercalate names).utf8ByteSize ("/".intercalate names) =
      tree.walk [] names := by
    rw [fetch, if_neg h.visible, if_neg (Nat.not_le_of_lt h.short), hnames]
  -- An empty path and one that starts with a slash have an empty name at their beginning.
  have hfirst (rest : List (List Char)) : divide ("/".intercalate names).toList ≠ [] :: rest := by
    intro hdivide
    rw [namesOf, hdivide] at hnames
    have hempty : "" ∈ names := hnames ▸ List.mem_cons_self
    exact Bool.false_ne_true (h.plain "" hempty).1.symm
  rw [read]
  split
  · next hpath => exact absurd (congrArg divide hpath) (hfirst [])
  · next rest hpath => exact absurd (congrArg divide hpath) (hfirst (divide rest))
  · exact hfetch

/-- **Each file is read at its path**, and nothing else is. -/
theorem read_eq_ok_iff (hseparate : tree.Separate) (h : IsPath names) :
    tree.read ("/".intercalate names) = .ok content ↔ tree.files.lookup names = some content := by
  rw [h.read_eq]
  exact walk_plain_iff hseparate h.plain h.ne_nil

/-- **The program that the command loads from a path** is the one whose source text is in the file
there. -/
theorem loads_read_iff (hseparate : tree.Separate) (h : IsPath names) :
    Command.Loads (tree.read ("/".intercalate names)) p ↔ ∃ source : List Char,
      tree.files.lookup names = some source.utf8Encode ∧ Program.parse source = .ok p := by
  constructor
  · intro hloads
    generalize hread : tree.read ("/".intercalate names) = found at hloads
    obtain ⟨hparse⟩ := hloads
    exact ⟨_, (read_eq_ok_iff hseparate h).mp hread, hparse⟩
  · rintro ⟨source, hfile, hparse⟩
    rw [(read_eq_ok_iff hseparate h).mpr hfile]
    exact .intro hparse

end Paths

end LS8.Directory
