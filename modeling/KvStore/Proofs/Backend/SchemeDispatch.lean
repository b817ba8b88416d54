import KvStore.Backend.Uri
import KvStore.Config.Backend

/-!
# Scheme dispatch and the location parsers

A URI's scheme picks its backend: the text before the first `:`, in ASCII lower case. The
SQLite and bucket backends then parse the URI again, by the literal prefixes `sqlite://`,
`sqlite:`, `file://` and `file:`. The two agree exactly when the scheme is written in lower
case: then the parser returns the path after the scheme and an optional `//`, refusing an
empty one, with `:memory:` standing for a private database. A scheme written with an upper
case letter is dispatched all the same, and its parser refuses it
(`scheme_dispatch_agrees_with_parsers_in_lower_case`).
-/

namespace KvStore

def pathAfterScheme : List Char → List Char
  | '/' :: '/' :: path => path
  | path => path

section Prefix

variable {u : String} {w r : List Char}

theorem stripPrefix?_eq_some_iff {p s r : String} :
    stripPrefix? p s = some r ↔ s.toList = p.toList ++ r.toList := by
  unfold stripPrefix?
  split
  · rename_i h
    obtain ⟨t, ht⟩ := List.isPrefixOf_iff_prefix.1 h
    rw [← ht, ← String.length_toList, List.drop_left, Option.some.injEq]
    constructor
    · rintro rfl
      simp
    · intro same
      rw [List.append_cancel_left same, String.ofList_toList]
  · rename_i h
    simp only [reduceCtorEq, false_iff]
    intro hs
    exact h (List.isPrefixOf_iff_prefix.2 ⟨_, hs.symm⟩)

/-- A text before a first colon is the whole scheme: two splits at a colon of texts free of
colons, one a prefix of the other, split at the same place. -/
theorem scheme_eq_of_colon_split {s t : List Char} (hs : ':' ∉ s) (hw : ':' ∉ w)
    (h : s ++ ':' :: t <+: w ++ ':' :: r) : s = w := by
  induction s generalizing w with
  | nil =>
    cases w with
    | nil => rfl
    | cons b w =>
      simp only [List.nil_append, List.cons_append] at h
      obtain ⟨rfl, -⟩ := List.cons_prefix_cons.1 h
      exact absurd (List.mem_cons_self ..) hw
  | cons a s ih =>
    cases w with
    | nil =>
      simp only [List.nil_append, List.cons_append] at h
      obtain ⟨rfl, -⟩ := List.cons_prefix_cons.1 h
      exact absurd (List.mem_cons_self ..) hs
    | cons b w =>
      simp only [List.cons_append] at h
      obtain ⟨rfl, htail⟩ := List.cons_prefix_cons.1 h
      rw [ih (fun m => hs (List.mem_cons_of_mem _ m)) (fun m => hw (List.mem_cons_of_mem _ m)) htail]

/-- A prefix made of a scheme and its colon is missing from a URI whose first colon ends
another scheme. -/
theorem stripPrefix?_of_other_scheme {p : String} {scheme t : List Char}
    (hp : p.toList = scheme ++ ':' :: t) (hs : ':' ∉ scheme) (hu : u.toList = w ++ ':' :: r)
    (hw : ':' ∉ w) (hne : w ≠ scheme) : stripPrefix? p u = none := by
  cases h : stripPrefix? p u with
  | none => rfl
  | some x =>
    rw [stripPrefix?_eq_some_iff, hp, hu] at h
    have hpre : scheme ++ ':' :: t <+: w ++ ':' :: r := ⟨x.toList, by simp [h]⟩
    exact absurd (scheme_eq_of_colon_split hs hw hpre).symm hne

theorem pathAfterScheme_cases (r : List Char) :
    (∃ path, r = '/' :: '/' :: path ∧ pathAfterScheme r = path) ∨
      (∀ path, r ≠ '/' :: '/' :: path) ∧ pathAfterScheme r = r := by
  by_cases h : ∃ path, r = '/' :: '/' :: path
  · obtain ⟨path, rfl⟩ := h
    exact .inl ⟨path, rfl, rfl⟩
  · refine .inr ⟨fun path hr => h ⟨path, hr⟩, ?_⟩
    unfold pathAfterScheme
    split
    · exact absurd ⟨_, rfl⟩ h
    · rfl

theorem strip_scheme {long short : String} {scheme : List Char} (hlong : long.toList = scheme ++ ':' :: "//".toList)
    (hshort : short.toList = scheme ++ [':']) (hu : u.toList = scheme ++ ':' :: r) :
    (stripPrefix? long u).orElse (fun _ => stripPrefix? short u) = some (String.ofList (pathAfterScheme r)) := by
  rcases pathAfterScheme_cases r with ⟨path, rfl, hpath⟩ | ⟨hnot, hpath⟩
  · have hl : stripPrefix? long u = some (String.ofList path) := by
      rw [stripPrefix?_eq_some_iff, hlong, hu]
      simp
    rw [hl, hpath]
    rfl
  · have hl : stripPrefix? long u = none := by
      cases h : stripPrefix? long u with
      | none => rfl
      | some x =>
        rw [stripPrefix?_eq_some_iff, hlong, hu] at h
        exact absurd (by simpa using h) (hnot x.toList)
    have hs : stripPrefix? short u = some (String.ofList r) := by
      rw [stripPrefix?_eq_some_iff, hshort, hu]
      simp
    rw [hl, hpath, Option.orElse_none, hs]

end Prefix

section Scheme

variable {u : String} {w r : List Char}

theorem exists_first_colon : ∀ {cs : List Char}, ':' ∈ cs → ∃ w r, cs = w ++ ':' :: r ∧ ':' ∉ w
  | c :: cs, h => by
    by_cases hc : c = ':'
    · exact ⟨[], cs, by simp [hc], by simp⟩
    · obtain ⟨w, r, rfl, hw⟩ := exists_first_colon (List.mem_of_ne_of_mem (Ne.symm hc) h)
      exact ⟨c :: w, r, rfl, by simp [hw, Ne.symm hc]⟩

theorem uriScheme_of_split (hu : u.toList = w ++ ':' :: r) (hw : ':' ∉ w) :
    uriScheme u = String.ofList (w.map Char.toLower) := by
  have hfirst : (w ++ ':' :: r).takeWhile (· != ':') = w := by
    rw [List.takeWhile_append_of_pos fun c hc => by simpa using (fun e : c = ':' => hw (e ▸ hc))]
    simp
  simp [uriScheme, hu, hfirst]

theorem uriScheme_of_no_colon (h : ':' ∉ u.toList) : uriScheme u = "" := by
  simp [uriScheme, h]

theorem ofUri_eq_ok_iff (kind : BackendKind) :
    BackendKind.ofUri u = .ok kind ↔ ∃ w r, u.toList = w ++ ':' :: r ∧ ':' ∉ w ∧
      BackendKind.ofScheme (String.ofList (w.map Char.toLower)) = some kind := by
  have hdispatch : BackendKind.ofUri u = .ok kind ↔ BackendKind.ofScheme (uriScheme u) = some kind := by
    unfold BackendKind.ofUri
    dsimp only
    split <;> simp_all
  rw [hdispatch]
  by_cases hc : ':' ∈ u.toList
  · obtain ⟨w, r, hu, hw⟩ := exists_first_colon hc
    rw [uriScheme_of_split hu hw]
    constructor
    · exact fun h => ⟨w, r, hu, hw, h⟩
    · rintro ⟨w', r', hu', hw', h⟩
      -- both are splits at the first colon
      have hpre : w' ++ ':' :: r' <+: w ++ ':' :: r := by simp only [← hu, ← hu', List.prefix_refl]
      rwa [← scheme_eq_of_colon_split hw' hw hpre]
  · rw [uriScheme_of_no_colon hc]
    constructor
    · intro h
      exact absurd h (by simp [BackendKind.ofScheme])
    · rintro ⟨w, r, hu, -, -⟩
      exact absurd (hu ▸ List.mem_append_right w (List.mem_cons_self ..)) hc

theorem ofScheme_eq_sqlite_iff (s : String) : BackendKind.ofScheme s = some .sqlite ↔ s = "sqlite" := by
  unfold BackendKind.ofScheme
  split <;> simp_all

theorem ofScheme_eq_bucket_iff (s : String) : BackendKind.ofScheme s = some .bucket ↔ s = "file" := by
  unfold BackendKind.ofScheme
  split <;> simp_all

end Scheme

section Parsers

variable {u : String} {w r : List Char}

theorem DatabaseLocation.ofUri_of_sqlite_scheme (hu : u.toList = "sqlite".toList ++ ':' :: r) :
    DatabaseLocation.ofUri u =
      if pathAfterScheme r = [] then .error (.invalidInput "sqlite URI has no path")
      else if pathAfterScheme r = ":memory:".toList then .ok .memory
      else .ok (.file (String.ofList (pathAfterScheme r))) := by
  have hstrip := strip_scheme (by decide : "sqlite://".toList = "sqlite".toList ++ ':' :: "//".toList)
    (by decide : "sqlite:".toList = "sqlite".toList ++ [':']) hu
  unfold DatabaseLocation.ofUri
  rw [hstrip]
  -- the match on the stripped text, read back as a condition on the path
  split
  · rename_i h
    exact absurd h (by simp)
  · rename_i h
    have hp : pathAfterScheme r = [] := by simpa using congrArg String.toList (Option.some.inj h)
    rw [hp, if_pos rfl]
  · rename_i h
    have hp : pathAfterScheme r = ":memory:".toList := by
      simpa using congrArg String.toList (Option.some.inj h)
    rw [hp, if_neg (by decide), if_pos rfl]
  · rename_i path hempty hmemory h
    have hp : pathAfterScheme r = path.toList := by simpa using congrArg String.toList (Option.some.inj h)
    have hne : path.toList ≠ [] := fun e => hempty (String.toList_inj.1 (by simpa using e))
    have hnm : path.toList ≠ ":memory:".toList := fun e => hmemory (String.toList_inj.1 e)
    rw [hp, if_neg hne, if_neg hnm, String.ofList_toList]

theorem DatabaseLocation.ofUri_of_other_scheme (hu : u.toList = w ++ ':' :: r) (hw : ':' ∉ w)
    (hne : w ≠ "sqlite".toList) : DatabaseLocation.ofUri u = .error (.invalidInput "expected a sqlite: URI") := by
  have hcolon : ':' ∉ "sqlite".toList := by decide
  have hlong := stripPrefix?_of_other_scheme
    (by decide : "sqlite://".toList = "sqlite".toList ++ ':' :: "//".toList) hcolon hu hw hne
  have hshort := stripPrefix?_of_other_scheme
    (by decide : "sqlite:".toList = "sqlite".toList ++ ':' :: []) hcolon hu hw hne
  unfold DatabaseLocation.ofUri
  rw [hlong, Option.orElse_none, hshort]

theorem bucketRootOfUri_of_file_scheme (hu : u.toList = "file".toList ++ ':' :: r) :
    bucketRootOfUri u =
      if pathAfterScheme r = [] then .error (.invalidInput "file URI has no path")
      else .ok (String.ofList (pathAfterScheme r)) := by
  have hstrip := strip_scheme (by decide : "file://".toList = "file".toList ++ ':' :: "//".toList)
    (by decide : "file:".toList = "file".toList ++ [':']) hu
  unfold bucketRootOfUri
  rw [hstrip]
  split
  · rename_i h
    exact absurd h (by simp)
  · rename_i h
    have hp : pathAfterScheme r = [] := by simpa using congrArg String.toList (Option.some.inj h)
    rw [hp, if_pos rfl]
  · rename_i path hempty h
    have hp : pathAfterScheme r = path.toList := by simpa using congrArg String.toList (Option.some.inj h)
    have hne : path.toList ≠ [] := fun e => hempty (String.toList_inj.1 (by simpa using e))
    rw [hp, if_neg hne, String.ofList_toList]

theorem bucketRootOfUri_of_other_scheme (hu : u.toList = w ++ ':' :: r) (hw : ':' ∉ w)
    (hne : w ≠ "file".toList) : bucketRootOfUri u = .error (.invalidInput "expected a file:// URI") := by
  have hcolon : ':' ∉ "file".toList := by decide
  have hlong := stripPrefix?_of_other_scheme
    (by decide : "file://".toList = "file".toList ++ ':' :: "//".toList) hcolon hu hw hne
  have hshort := stripPrefix?_of_other_scheme
    (by decide : "file:".toList = "file".toList ++ ':' :: []) hcolon hu hw hne
  unfold bucketRootOfUri
  rw [hlong, Option.orElse_none, hshort]

end Parsers

/-- Dispatch and parsing agree exactly on schemes written in lower case. A URI sent to the
SQLite backend has a scheme that lower-cases to `sqlite`; its parser then gives the path
after the scheme and an optional `//`, refusing an empty one and reading `:memory:` as a
private database, when the scheme is written `sqlite`, and refuses the URI as no SQLite URI
otherwise. The same holds of the bucket backend and `file`. -/
theorem scheme_dispatch_agrees_with_parsers_in_lower_case (u : String) :
    (BackendKind.ofUri u = .ok .sqlite →
      ∃ w r, u.toList = w ++ ':' :: r ∧ ':' ∉ w ∧ w.map Char.toLower = "sqlite".toList ∧
        DatabaseLocation.ofUri u =
          if w ≠ "sqlite".toList then .error (.invalidInput "expected a sqlite: URI")
          else if pathAfterScheme r = [] then .error (.invalidInput "sqlite URI has no path")
          else if pathAfterScheme r = ":memory:".toList then .ok .memory
          else .ok (.file (String.ofList (pathAfterScheme r)))) ∧
    (BackendKind.ofUri u = .ok .bucket →
      ∃ w r, u.toList = w ++ ':' :: r ∧ ':' ∉ w ∧ w.map Char.toLower = "file".toList ∧
        bucketRootOfUri u =
          if w ≠ "file".toList then .error (.invalidInput "expected a file:// URI")
          else if pathAfterScheme r = [] then .error (.invalidInput "file URI has no path")
          else .ok (String.ofList (pathAfterScheme r))) := by
  constructor
  · intro h
    obtain ⟨w, r, hu, hw, hkind⟩ := (ofUri_eq_ok_iff .sqlite).1 h
    have hlower : w.map Char.toLower = "sqlite".toList := by
      simpa using congrArg String.toList ((ofScheme_eq_sqlite_iff _).1 hkind)
    refine ⟨w, r, hu, hw, hlower, ?_⟩
    by_cases hs : w = "sqlite".toList
    · rw [if_neg (fun h => h hs), DatabaseLocation.ofUri_of_sqlite_scheme (hs ▸ hu)]
    · rw [if_pos hs, DatabaseLocation.ofUri_of_other_scheme hu hw hs]
  · intro h
    obtain ⟨w, r, hu, hw, hkind⟩ := (ofUri_eq_ok_iff .bucket).1 h
    have hlower : w.map Char.toLower = "file".toList := by
      simpa using congrArg String.toList ((ofScheme_eq_bucket_iff _).1 hkind)
    refine ⟨w, r, hu, hw, hlower, ?_⟩
    by_cases hs : w = "file".toList
    · rw [if_neg (fun h => h hs), bucketRootOfUri_of_file_scheme (hs ▸ hu)]
    · rw [if_pos hs, bucketRootOfUri_of_other_scheme hu hw hs]

/-- `SQLITE:x.db` goes to the SQLite backend, whose parser refuses it. -/
theorem upper_case_sqlite_scheme_dispatched_then_refused :
    BackendKind.ofUri "SQLITE:x.db" = .ok .sqlite ∧
      ∃ w r, "SQLITE:x.db".toList = w ++ ':' :: r ∧ ':' ∉ w ∧ w.map Char.toLower = "sqlite".toList ∧
        DatabaseLocation.ofUri "SQLITE:x.db" =
          if w ≠ "sqlite".toList then .error (.invalidInput "expected a sqlite: URI")
          else if pathAfterScheme r = [] then .error (.invalidInput "sqlite URI has no path")
          else if pathAfterScheme r = ":memory:".toList then .ok .memory
          else .ok (.file (String.ofList (pathAfterScheme r))) :=
  ⟨rfl, (scheme_dispatch_agrees_with_parsers_in_lower_case "SQLITE:x.db").1 rfl⟩

end KvStore
