/-!
# Sequences of calls that may fail

A sequence of calls succeeds exactly if each of them does.

Main results:

- `bind_eq_ok_iff`: two calls, the second of which uses the result of the first.
- `map_eq_ok_iff`, `map_eq_error_iff`: a call and what is made of its result.
- `mapError_eq_ok_iff`: a call and what is made of its error.
- `mapM_cons_eq_ok_iff`: one call for each element of a list.
- `exists_mapM_eq_ok`: when such calls succeed.
- `getElem?_of_mapM_eq_ok`, `map_eq_map_of_mapM_eq_ok`: what the results say of the elements.
- `exists_of_mem_mapM_eq_ok`: where a result comes from.
- `prefix_of_mapM_eq_ok`: the calls for the first elements.
- `filter_mapM_eq_ok`: the calls for some of the elements.
- `mapM_map_eq_ok`: other calls, for the images of the elements.
- `Agree.bind`, `Agree.foldlM`: sequences of calls that agree.
-/

namespace LayerNet

variable {ε α β γ : Type} {f : α → Except ε β} {xs : List α} {ys : List β}

theorem bind_eq_ok_iff {x : Except ε α} {y : β} :
    (x >>= f) = .ok y ↔ ∃ a, x = .ok a ∧ f a = .ok y := by
  cases x <;> simp [bind, Except.bind]

theorem map_eq_ok_iff {g : α → β} {x : Except ε α} {y : β} :
    x.map g = .ok y ↔ ∃ a, x = .ok a ∧ g a = y := by
  cases x <;> simp [Except.map]

theorem map_eq_error_iff {g : α → β} {x : Except ε α} {e : ε} :
    x.map g = .error e ↔ x = .error e := by
  cases x <;> simp [Except.map]

theorem mapError_eq_ok_iff {ε' : Type} {g : ε → ε'} {x : Except ε α} {y : α} :
    x.mapError g = .ok y ↔ x = .ok y := by
  cases x with
  | error e => exact iff_of_false nofun nofun
  | ok a => exact ⟨fun h => congrArg Except.ok (Except.ok.inj h), congrArg (Except.mapError g)⟩

theorem exists_eq_ok_of_isOk {x : Except ε α} (h : x.isOk = true) : ∃ a, x = .ok a := by
  cases x with
  | error e => cases h
  | ok a => exact ⟨a, rfl⟩

/-! ## One call for each element -/

theorem mapM_nil_eq_ok_iff : ([] : List α).mapM f = .ok ys ↔ ys = [] := by
  simp [pure, Except.pure, eq_comm]

/-- The results are that of the first call and those of the others. -/
theorem mapM_cons_eq_ok_iff {x : α} :
    (x :: xs).mapM f = .ok ys ↔ ∃ y zs, f x = .ok y ∧ xs.mapM f = .ok zs ∧ ys = y :: zs := by
  simp only [List.mapM_cons, bind_eq_ok_iff, pure, Except.pure, Except.ok.injEq]
  constructor
  · rintro ⟨y, hy, zs, hzs, rfl⟩
    exact ⟨y, zs, hy, hzs, rfl⟩
  · rintro ⟨y, zs, hy, hzs, rfl⟩
    exact ⟨y, hy, zs, hzs, rfl⟩

/-- If the call for every element succeeds, so does the sequence. -/
theorem exists_mapM_eq_ok (h : ∀ x ∈ xs, ∃ y, f x = .ok y) : ∃ ys, xs.mapM f = .ok ys := by
  induction xs with
  | nil => exact ⟨[], rfl⟩
  | cons x xs ih =>
      rcases h x List.mem_cons_self with ⟨y, hy⟩
      rcases ih fun z hz => h z (List.mem_cons_of_mem x hz) with ⟨ys, hys⟩
      exact ⟨y :: ys, mapM_cons_eq_ok_iff.mpr ⟨y, ys, hy, hys, rfl⟩⟩

/-- The result of the call for an element stands at its place. -/
theorem getElem?_of_mapM_eq_ok (hmap : xs.mapM f = .ok ys) {i : Nat} {x : α}
    (hx : xs[i]? = some x) : ∃ y, ys[i]? = some y ∧ f x = .ok y := by
  induction xs generalizing ys i with
  | nil => simp at hx
  | cons head xs ih =>
      rcases mapM_cons_eq_ok_iff.mp hmap with ⟨y, zs, hy, hzs, rfl⟩
      cases i with
      | zero =>
          rw [List.getElem?_cons_zero, Option.some.injEq] at hx
          exact ⟨y, rfl, hx ▸ hy⟩
      | succ i => exact ih hzs hx

/-- What every call keeps of its element can be read off the results. -/
theorem map_eq_map_of_mapM_eq_ok {g : α → γ} {k : β → γ} (hmap : xs.mapM f = .ok ys)
    (h : ∀ x y, f x = .ok y → g x = k y) : xs.map g = ys.map k := by
  induction xs generalizing ys with
  | nil =>
      rw [mapM_nil_eq_ok_iff.mp hmap]
      rfl
  | cons x xs ih =>
      rcases mapM_cons_eq_ok_iff.mp hmap with ⟨y, zs, hy, hzs, rfl⟩
      rw [List.map_cons, List.map_cons, h x y hy, ih hzs]

/-- Every result is that of the call for an element. -/
theorem exists_of_mem_mapM_eq_ok (hmap : xs.mapM f = .ok ys) {y : β} (hy : y ∈ ys) :
    ∃ x ∈ xs, f x = .ok y := by
  have heq : xs.map f = ys.map .ok := map_eq_map_of_mapM_eq_ok hmap fun _ _ h => h
  have hmem : .ok y ∈ xs.map f := heq ▸ List.mem_map_of_mem hy
  exact List.mem_map.mp hmem

/-- Calls for more elements have the results of the calls for the first ones in front. -/
theorem prefix_of_mapM_eq_ok {more : List α} {all : List β} (hbegins : xs <+: more)
    (hmap : xs.mapM f = .ok ys) (hmore : more.mapM f = .ok all) : ys <+: all := by
  induction xs generalizing more ys all with
  | nil =>
      rw [mapM_nil_eq_ok_iff.mp hmap]
      exact List.nil_prefix
  | cons x xs ih =>
      rcases hbegins with ⟨rest, rfl⟩
      rcases mapM_cons_eq_ok_iff.mp hmap with ⟨y, zs, hy, hzs, rfl⟩
      rcases mapM_cons_eq_ok_iff.mp hmore with ⟨y', zs', hy', hzs', rfl⟩
      cases hy.symm.trans hy'
      exact List.cons_prefix_cons.mpr ⟨rfl, ih (List.prefix_append xs rest) hzs hzs'⟩

/-- If the results tell which elements are selected, the calls for these give these results. -/
theorem filter_mapM_eq_ok {p : α → Bool} {q : β → Bool} (hmap : xs.mapM f = .ok ys)
    (h : ∀ x y, f x = .ok y → p x = q y) : (xs.filter p).mapM f = .ok (ys.filter q) := by
  induction xs generalizing ys with
  | nil =>
      rw [mapM_nil_eq_ok_iff.mp hmap]
      rfl
  | cons x xs ih =>
      rcases mapM_cons_eq_ok_iff.mp hmap with ⟨y, zs, hy, hzs, rfl⟩
      rw [List.filter_cons, List.filter_cons, h x y hy]
      split
      · exact mapM_cons_eq_ok_iff.mpr ⟨y, _, hy, ih hzs, rfl⟩
      · exact ih hzs

/-- If other calls give what comes of the results, they do so in a sequence as well. -/
theorem mapM_map_eq_ok {α' β' : Type} {f' : α' → Except ε β'} {g : α → α'} {k : β → β'}
    (hmap : xs.mapM f = .ok ys) (h : ∀ x ∈ xs, ∀ y, f x = .ok y → f' (g x) = .ok (k y)) :
    (xs.map g).mapM f' = .ok (ys.map k) := by
  induction xs generalizing ys with
  | nil =>
      rw [mapM_nil_eq_ok_iff.mp hmap]
      rfl
  | cons x xs ih =>
      rcases mapM_cons_eq_ok_iff.mp hmap with ⟨y, zs, hy, hzs, rfl⟩
      refine mapM_cons_eq_ok_iff.mpr ⟨k y, zs.map k, h x List.mem_cons_self y hy, ?_, rfl⟩
      exact ih hzs fun z hz => h z (List.mem_cons_of_mem x hz)

/-! ## Calls that agree -/

/-- Whether two calls succeed with related results, or fail with the same error. -/
inductive Agree (R : α → β → Prop) : Except ε α → Except ε β → Prop where
  | ok {a : α} {b : β} (related : R a b) : Agree R (.ok a) (.ok b)
  | error (e : ε) : Agree R (.error e) (.error e)

/-- Calls that agree may be followed by calls that agree on related results. -/
theorem Agree.bind {α' β' : Type} {R : α → β → Prop} {S : α' → β' → Prop} {x : Except ε α}
    {y : Except ε β} {k : α → Except ε α'} {l : β → Except ε β'} (h : Agree R x y)
    (hnext : ∀ a b, R a b → Agree S (k a) (l b)) : Agree S (x >>= k) (y >>= l) := by
  cases h with
  | ok hrelated => exact hnext _ _ hrelated
  | error e => exact .error e

theorem Agree.map {α' β' : Type} {R : α → β → Prop} {S : α' → β' → Prop} {x : Except ε α}
    {y : Except ε β} {k : α → α'} {l : β → β'} (h : Agree R x y)
    (hnext : ∀ a b, R a b → S (k a) (l b)) : Agree S (x.map k) (y.map l) := by
  cases h with
  | ok hrelated => exact .ok (hnext _ _ hrelated)
  | error e => exact .error e

/-- If the calls for an element and for its image agree on related states, so do those for all
elements of a list and for their images. -/
theorem Agree.foldlM {σ τ : Type} {R : σ → τ → Prop} {step : σ → α → Except ε σ}
    {step' : τ → β → Except ε τ} {g : α → β}
    (hstep : ∀ x ∈ xs, ∀ s t, R s t → Agree R (step s x) (step' t (g x))) {s : σ} {t : τ}
    (h : R s t) : Agree R (xs.foldlM step s) ((xs.map g).foldlM step' t) := by
  induction xs generalizing s t with
  | nil => exact .ok h
  | cons x xs ih =>
      rw [List.map_cons, List.foldlM_cons, List.foldlM_cons]
      refine (hstep x List.mem_cons_self s t h).bind fun _ _ hnext => ?_
      exact ih (fun y hy => hstep y (List.mem_cons_of_mem x hy)) hnext

end LayerNet
