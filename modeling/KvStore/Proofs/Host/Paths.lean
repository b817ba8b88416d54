import KvStore.Host.Path

/-!
Path texts built by joining plain components. Joining a plain component to any base
adds exactly that component to the resolved path (`resolve_join`), and the parent of such
a joined text resolves like the base (`parent?_join`): this is how the names of a
directory's entries and of its temporary files are formed and taken apart.
-/

namespace KvStore

namespace PathText

/-- A single component of a path: not empty, without a separator, and neither `.` nor
`..`. -/
structure Plain (c : String) : Prop where
  ne_empty : c ≠ ""
  no_sep : '/' ∉ c.toList
  ne_dot : c ≠ "."
  ne_dotdot : c ≠ ".."

theorem Plain.toList_ne_nil {c : String} (hc : Plain c) : c.toList ≠ [] := by
  simpa using hc.ne_empty

theorem components_ofList (cs : List Char) :
    components (String.ofList cs) =
      ((cs.splitOn '/').map String.ofList).filter fun c => !c.isEmpty && c != "." := by
  rw [components, String.toList_ofList]

theorem components_of_toList {s : String} {cs : List Char} (h : s.toList = cs) :
    components s = components (String.ofList cs) := by
  rw [← h, String.ofList_toList]

theorem components_append_sep (cs : List Char) :
    components (String.ofList (cs ++ ['/'])) = components (String.ofList cs) := by
  rw [components_ofList, components_ofList, List.splitOn_append_cons_self]
  simp

theorem components_append_seps (cs : List Char) {seps : List Char} (h : ∀ x ∈ seps, x = '/') :
    components (String.ofList (cs ++ seps)) = components (String.ofList cs) := by
  induction seps generalizing cs with
  | nil => rw [List.append_nil]
  | cons x seps ih =>
    have hx : x = '/' := h x (by simp)
    subst hx
    rw [show cs ++ '/' :: seps = (cs ++ ['/']) ++ seps by simp,
      ih _ (fun y hy => h y (by simp [hy])), components_append_sep]

theorem components_plain {c : String} (hc : Plain c) : components c = [c] := by
  have hempty : c.isEmpty = false := by simpa [String.isEmpty_iff] using hc.ne_empty
  rw [components, List.splitOn_eq_singleton hc.no_sep]
  simp [hempty, hc.ne_dot]

theorem components_append_plain (cs : List Char) {c : String} (hc : Plain c) :
    components (String.ofList (cs ++ '/' :: c.toList)) = components (String.ofList cs) ++ [c] := by
  have hempty : c.isEmpty = false := by simpa [String.isEmpty_iff] using hc.ne_empty
  rw [components_ofList, components_ofList, List.splitOn_append_cons_self,
    List.splitOn_eq_singleton hc.no_sep, List.map_append, List.filter_append]
  simp [hempty, hc.ne_dot]

theorem components_empty : components "" = [] := by decide

theorem components_root : components "/" = [] := by decide

theorem isAbsolute_iff (p : String) : isAbsolute p = true ↔ p.toList.head? = some '/' := by
  rw [isAbsolute, String.startsWith_string_iff, ← List.singleton_prefix_iff_head?_eq_some]
  rfl

theorem isAbsolute_root : isAbsolute "/" = true := (isAbsolute_iff _).2 rfl

theorem isAbsolute_of_plain {c : String} (hc : Plain c) : isAbsolute c = false := by
  rw [Bool.eq_false_iff, ne_eq, isAbsolute_iff]
  intro h
  exact hc.no_sep (List.mem_of_mem_head? h)

theorem resolve_congr (cwd : Path) {p q : String} (habs : isAbsolute p = isAbsolute q)
    (hcomp : components p = components q) : resolve cwd p = resolve cwd q := by
  simp only [resolve, habs, hcomp]

theorem resolve_append_plain (cwd : Path) {p q : String} {c : String} (hc : Plain c)
    (habs : isAbsolute p = isAbsolute q) (hcomp : components p = components q ++ [c]) :
    resolve cwd p = resolve cwd q ++ [c] := by
  have hdots : (c == "..") = false := by simpa using hc.ne_dotdot
  simp only [resolve, habs, hcomp, List.foldl_append, List.foldl_cons, List.foldl_nil, hdots,
    Bool.false_eq_true, if_false]

theorem join_toList {base c : String} (hc : Plain c) (hbase : base ≠ "") :
    ∃ pre, (join base c).toList = pre ++ '/' :: c.toList ∧
      (base.toList = pre ∨ base.toList = pre ++ ['/']) := by
  have hrel : isAbsolute c = false := isAbsolute_of_plain hc
  have hne : base.isEmpty = false := by simpa [String.isEmpty_iff] using hbase
  by_cases hend : base.endsWith "/" = true
  · obtain ⟨pre, hpre⟩ : ∃ pre, base.toList = pre ++ ['/'] := by
      rw [String.endsWith_eq_endsWith_toSlice, String.Slice.endsWith_string_iff,
        String.copy_toSlice] at hend
      obtain ⟨pre, hpre⟩ := hend
      exact ⟨pre, by simpa using hpre.symm⟩
    refine ⟨pre, ?_, .inr hpre⟩
    simp [join, hrel, hne, hend, hpre]
  · refine ⟨base.toList, ?_, .inl rfl⟩
    simp [join, hrel, hne, hend]

theorem components_join (base : String) {c : String} (hc : Plain c) :
    components (join base c) = components base ++ [c] := by
  by_cases hbase : base = ""
  · subst hbase
    simp [join, isAbsolute_of_plain hc, components_plain hc, components_empty]
  · obtain ⟨pre, hjoin, hpre⟩ := join_toList hc hbase
    rw [components_of_toList hjoin, components_append_plain _ hc]
    rcases hpre with hpre | hpre
    · rw [components_of_toList hpre]
    · rw [components_of_toList hpre, components_append_sep]

theorem isAbsolute_join (base : String) {c : String} (hc : Plain c) :
    isAbsolute (join base c) = isAbsolute base := by
  by_cases hbase : base = ""
  · subst hbase
    simp [join, isAbsolute_of_plain hc]
    decide
  · obtain ⟨pre, hjoin, hpre⟩ := join_toList hc hbase
    have hne : base.toList ≠ [] := by simpa using hbase
    rw [Bool.eq_iff_iff, isAbsolute_iff, isAbsolute_iff, hjoin]
    rcases hpre with hpre | hpre
    · obtain ⟨x, xs, hx⟩ := List.exists_cons_of_ne_nil hne
      simp [← hpre, hx]
    · simp [hpre]

theorem resolve_join (cwd : Path) (base : String) {c : String} (hc : Plain c) :
    resolve cwd (join base c) = resolve cwd base ++ [c] :=
  resolve_append_plain cwd hc (isAbsolute_join base hc) (components_join base hc)

section Parent

variable {c : String} (hc : Plain c) (pre : List Char)
include hc

theorem dropWhile_sep_of_plain :
    (pre ++ c.toList).reverse.dropWhile (· == '/') = (pre ++ c.toList).reverse := by
  obtain ⟨x, xs, hx⟩ := List.exists_cons_of_ne_nil (List.reverse_ne_nil_iff.2 hc.toList_ne_nil)
  have hxsep : x ≠ '/' := fun e => hc.no_sep (by rw [← e, ← List.mem_reverse, hx]; simp)
  rw [List.reverse_append, hx, List.cons_append, List.dropWhile_cons_of_neg (by simpa using hxsep)]

theorem dropWhile_name_of_plain :
    (pre ++ c.toList).reverse.dropWhile (· != '/') = pre.reverse.dropWhile (· != '/') := by
  rw [List.reverse_append, List.dropWhile_append_of_pos]
  intro y hy
  have hy' : y ≠ '/' := fun e => hc.no_sep (by rw [← e]; exact List.mem_reverse.1 hy)
  simpa using hy'

theorem parent?_plain : parent? c = some "" := by
  have htrim := dropWhile_sep_of_plain hc []
  have hname := dropWhile_name_of_plain hc []
  rw [List.nil_append] at htrim hname
  simp [parent?, htrim, hname, hc.toList_ne_nil]

/-- The parent of a path ending in a separator and a plain component: the text before
them, with the separators at its end dropped. -/
theorem parent?_of_toList {p : String} (h : p.toList = pre ++ '/' :: c.toList) :
    parent? p = some (if pre.reverse.dropWhile (· == '/') = [] then "/"
      else String.ofList (pre.reverse.dropWhile (· == '/')).reverse) := by
  have hp : p.toList = (pre ++ ['/']) ++ c.toList := by simp [h]
  have htrim := dropWhile_sep_of_plain hc (pre ++ ['/'])
  have hname := dropWhile_name_of_plain hc (pre ++ ['/'])
  rw [← hp] at htrim hname
  have hne : p.toList ≠ [] := by simp [h]
  simp only [parent?, htrim, List.reverse_reverse, hname, List.reverse_append, List.reverse_cons,
    List.reverse_nil, List.nil_append, List.cons_append, List.isEmpty_reverse, List.isEmpty_iff,
    hne, List.dropWhile_cons, bne_self_eq_false, beq_self_eq_true, reduceCtorEq, if_false, if_true]
  rw [if_neg (List.append_ne_nil_of_right_ne_nil pre (List.cons_ne_nil _ _))]
  exact (apply_ite some _ _ _).symm

end Parent

/-- A text of some text followed by separators resolves like it, or like the root when it
is all separators. -/
theorem resolve_append_seps (cwd : Path) {p : String} {w seps : List Char} (hp : p.toList = w ++ seps)
    (hseps : ∀ x ∈ seps, x = '/') (hne : p ≠ "") :
    resolve cwd p = resolve cwd (if w = [] then "/" else String.ofList w) := by
  have hcomp : components p = components (String.ofList w) := by
    rw [components_of_toList hp, components_append_seps w hseps]
  by_cases hw : w = []
  · subst hw
    have hsome : seps ≠ [] := fun e => hne (String.toList_eq_nil_iff.1 (by rw [hp, e]; rfl))
    obtain ⟨x, xs, hx⟩ := List.exists_cons_of_ne_nil hsome
    have habs : isAbsolute p = true := by
      rw [isAbsolute_iff, hp, List.nil_append, hx, hseps x (by simp [hx])]
      rfl
    rw [if_pos rfl]
    exact resolve_congr cwd (by rw [habs, isAbsolute_root]) (by rw [hcomp, components_root]; rfl)
  · rw [if_neg hw]
    refine resolve_congr cwd ?_ hcomp
    obtain ⟨x, xs, hx⟩ := List.exists_cons_of_ne_nil hw
    rw [Bool.eq_iff_iff, isAbsolute_iff, isAbsolute_iff, hp, String.toList_ofList, hx]
    rfl

theorem parent?_join (base : String) {c : String} (hc : Plain c) :
    ∃ dir, parent? (join base c) = some dir ∧ ∀ cwd, resolve cwd dir = resolve cwd base := by
  by_cases hbase : base = ""
  · subst hbase
    refine ⟨"", ?_, fun _ => rfl⟩
    simpa [join, isAbsolute_of_plain hc] using parent?_plain hc
  · obtain ⟨pre, hjoin, hpre⟩ := join_toList hc hbase
    refine ⟨_, parent?_of_toList hc pre hjoin, fun cwd => ?_⟩
    -- the base is the parent's text followed by separators only
    have hsplit : pre = (pre.reverse.dropWhile (· == '/')).reverse ++
        (pre.reverse.takeWhile (· == '/')).reverse := by
      rw [← List.reverse_append, List.takeWhile_append_dropWhile, List.reverse_reverse]
    have htail : ∀ x ∈ (pre.reverse.takeWhile (· == '/')).reverse, x = '/' := fun x hx => by
      simpa using List.all_eq_true.1 List.all_takeWhile x (List.mem_reverse.1 hx)
    have hempty : (pre.reverse.dropWhile (· == '/') = []) =
        ((pre.reverse.dropWhile (· == '/')).reverse = []) := by simp
    simp only [hempty]
    symm
    rcases hpre with hpre | hpre
    · exact resolve_append_seps cwd (hpre.trans hsplit) htail hbase
    · have hbase' : base.toList = (pre.reverse.dropWhile (· == '/')).reverse ++
          ((pre.reverse.takeWhile (· == '/')).reverse ++ ['/']) := by
        rw [hpre, ← List.append_assoc, ← hsplit]
      refine resolve_append_seps cwd hbase' ?_ hbase
      · intro x hx
        rcases List.mem_append.1 hx with hx | hx
        · exact htail x hx
        · simpa using hx

end PathText

end KvStore
