import HeatFeed.Http.Request
import HeatFeed.Proofs.Except
import HeatFeed.Proofs.Members

/-!
# Headers as a map

What each operation does to the values of a name, in any letter case. Headers that have been built
have their names in lower case and in order, each with some values. Headers that override others
replace all values of their names and leave those of all other names alone.
-/

namespace HeatFeed.Http

/-! ### Letter case -/

@[simp] theorem lowerName_lowerName (name : String) :
    lowerName (lowerName name) = lowerName name := by
  have lower (c : Char) : c.toLower.toLower = c.toLower := by
    delta Char.toLower
    grind
  simp [lowerName, Function.comp_def, lower]

@[simp] theorem lowerName_authorization : lowerName authorizationName = authorizationName := by
  decide

namespace Headers

/-- Headers that have been built: names in lower case and in order, each with some values. -/
structure WellFormed (hs : Headers) : Prop where
  sorted : Members.Sorted hs
  lower : ∀ m ∈ hs, lowerName m.1 = m.1
  nonempty : ∀ m ∈ hs, m.2 ≠ []

/-- Whether there is a name, in any letter case. -/
def Has (hs : Headers) (name : String) : Prop := lowerName name ∈ Members.keys hs

instance (hs : Headers) (name : String) : Decidable (hs.Has name) :=
  inferInstanceAs (Decidable (lowerName name ∈ Members.keys hs))

/-! ### Values -/

theorem values_of_get? {hs : Headers} {name : String} {vs : List HeaderValue}
    (h : Members.get? (lowerName name) hs = some vs) : hs.values name = vs := by
  rw [values, h]; rfl

theorem values_of_not_has {hs : Headers} {name : String} (h : ¬hs.Has name) :
    hs.values name = [] := by
  rw [values, Members.get?_eq_none h]; rfl

theorem exists_mem_of_mem_values {hs : Headers} {name : String} {v : HeaderValue}
    (h : v ∈ hs.values name) : ∃ m ∈ hs, v ∈ m.2 := by
  rw [values] at h
  cases found : Members.get? (lowerName name) hs with
  | none =>
    rw [found] at h
    cases h
  | some vs =>
    rw [found] at h
    exact ⟨_, Members.mem_of_get? found, h⟩

/-- A name is there iff it has values. -/
theorem WellFormed.has_iff {hs : Headers} (h : hs.WellFormed) (name : String) :
    hs.Has name ↔ hs.values name ≠ [] := by
  refine ⟨fun has => ?_, fun some => Decidable.byContradiction fun not => ?_⟩
  · cases found : Members.get? (lowerName name) hs with
    | none => exact absurd has (Members.get?_eq_none_iff.1 found)
    | some vs =>
      rw [values_of_get? found]
      exact h.nonempty _ (Members.mem_of_get? found)
  · exact some (values_of_not_has not)

theorem values_set (hs : Headers) (name other : String) (v : HeaderValue) :
    (hs.set name v).values other = if lowerName other = lowerName name then [v]
      else hs.values other := by
  rw [values, set]
  split
  · rename_i same
    rw [same, Members.get?_insert_self]
    rfl
  · rename_i apart
    rw [Members.get?_insert_of_ne apart, values]

/-! ### Building headers -/

theorem wellFormed_nil : WellFormed [] := ⟨List.Pairwise.nil, nofun, nofun⟩

theorem WellFormed.insert {hs : Headers} (h : hs.WellFormed) (name : String)
    {vs : List HeaderValue} (some : vs ≠ []) :
    WellFormed (Members.insert (lowerName name) vs hs) := by
  refine ⟨h.sorted.insert _ _, fun m mem => ?_, fun m mem => ?_⟩
  · rcases Members.mem_insert mem with rfl | mem
    · exact lowerName_lowerName name
    · exact h.lower m mem
  · rcases Members.mem_insert mem with rfl | mem
    · exact some
    · exact h.nonempty m mem

theorem WellFormed.set {hs : Headers} (h : hs.WellFormed) (name : String) (v : HeaderValue) :
    (hs.set name v).WellFormed := h.insert name (List.cons_ne_nil v [])

theorem WellFormed.append {hs : Headers} (h : hs.WellFormed) (name : String) (v : HeaderValue) :
    (hs.append name v).WellFormed := h.insert name (List.concat_ne_nil v _)

theorem wellFormed_ofPairs {pairs : List (String × String)} {hs : Headers}
    (h : ofPairs pairs = .ok hs) : hs.WellFormed := by
  refine preserved_foldlM (P := WellFormed) (fun hs pair next wf done => ?_) wellFormed_nil h
  obtain ⟨name, value⟩ := pair
  obtain ⟨v, -, done⟩ := bind_eq_ok.1 done
  cases done
  exact wf.append name v

/-! ### Overriding -/

theorem override_eq (hs overrides : Headers) :
    hs.override overrides = Members.insertAll hs overrides := Members.foldl_insert hs overrides

theorem get?_override (hs overrides : Headers) (key : String) :
    Members.get? key (hs.override overrides) =
      (Members.last? key overrides).or (Members.get? key hs) := by
  rw [override_eq, Members.get?_insertAll]

theorem sorted_override {hs : Headers} (h : Members.Sorted hs) (overrides : Headers) :
    Members.Sorted (hs.override overrides) := by
  rw [override_eq]
  exact h.insertAll overrides

theorem WellFormed.override {hs overrides : Headers} (h : hs.WellFormed)
    (ho : overrides.WellFormed) : (hs.override overrides).WellFormed := by
  have mem {m : String × List HeaderValue} (hm : m ∈ hs.override overrides) :
      m ∈ overrides ∨ m ∈ hs := by
    rw [override_eq] at hm
    exact Members.mem_insertAll hm
  exact ⟨sorted_override h.sorted overrides, fun m hm => (mem hm).elim (ho.lower m) (h.lower m),
    fun m hm => (mem hm).elim (ho.nonempty m) (h.nonempty m)⟩

section

variable {overrides : Headers} (ho : overrides.WellFormed) (hs : Headers) {name : String}

include ho

theorem values_override_of_has (h : overrides.Has name) :
    (hs.override overrides).values name = overrides.values name := by
  rw [values, get?_override, ho.sorted.last?_eq]
  cases found : Members.get? (lowerName name) overrides with
  | none => exact absurd h (Members.get?_eq_none_iff.1 found)
  | some vs => rw [values, found]; rfl

theorem values_override_of_not_has (h : ¬overrides.Has name) :
    (hs.override overrides).values name = hs.values name := by
  rw [values, get?_override, ho.sorted.last?_eq, Members.get?_eq_none h]
  rfl

theorem has_override : (hs.override overrides).Has name ↔ overrides.Has name ∨ hs.Has name := by
  have absent (ms : Headers) : ¬ms.Has name ↔ Members.get? (lowerName name) ms = none :=
    Members.get?_eq_none_iff.symm
  rw [← Decidable.not_iff_not, not_or, absent, absent, absent, get?_override, ho.sorted.last?_eq,
    Option.or_eq_none_iff]

end

end Headers

namespace RequestOptions

theorem wellFormed_step {o next : RequestOptions} (h : o.headers.WellFormed) {s : Step}
    (done : o.step s = .ok next) : next.headers.WellFormed := by
  cases s with
  | get => cases done; exact Headers.wellFormed_nil
  | post v => cases done; exact Headers.wellFormed_nil
  | method name =>
    rw [step] at done
    split at done
    · cases done; exact h
    · cases done
  | header name value =>
    obtain ⟨v, -, done⟩ := bind_eq_ok.1 done
    cases done
    exact h.set name v
  | append name value =>
    obtain ⟨v, -, done⟩ := bind_eq_ok.1 done
    cases done
    exact h.append name v
  | body text => cases done; exact h

/-- Whatever steps build options, their headers are well-formed. -/
theorem wellFormed_build {steps : List Step} {o : RequestOptions} (h : build steps = .ok o) :
    o.headers.WellFormed :=
  preserved_foldlM (P := fun o => o.headers.WellFormed)
    (fun _ _ _ before done => wellFormed_step before done) Headers.wellFormed_nil h

end RequestOptions

end HeatFeed.Http
