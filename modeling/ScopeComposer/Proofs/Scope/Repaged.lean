import ScopeComposer.Proofs.Scope.Resolved

/-!
# Requests with other windows

Some scopes are not collections and have no use for the window of their request. Two lists that name
the same scopes one by one and differ in the windows of such scopes only resolve to the same tags,
and to the same windows for all other tags.
-/

namespace ScopeComposer

variable {S : Type}

/-- Requests for the same scopes one by one, the same ones except for the windows of idle scopes. -/
def ScopeRequest.Repaged (idle : List S) (requests requests' : List (ScopeRequest S)) : Prop :=
  List.Forall₂ (fun r r' => r.scope = r'.scope ∧ (r.scope ∉ idle → r = r')) requests requests'

namespace ScopeRequest.Repaged

variable {idle : List S} {requests requests' : List (ScopeRequest S)}

theorem scopes_eq (h : Repaged idle requests requests') :
    requests.map ScopeRequest.scope = requests'.map ScopeRequest.scope := by
  induction h with
  | nil => rfl
  | cons hr _ ih => rw [List.map_cons, List.map_cons, hr.1, ih]

/-- The windows that are asked for scopes other than idle ones stay. -/
theorem windowsFor_eq (h : Repaged idle requests requests') {p : S → Bool}
    (hp : ∀ scope ∈ idle, p scope = false) :
    ResolvedScopes.windowsFor requests p = ResolvedScopes.windowsFor requests' p := by
  induction h with
  | nil => rfl
  | @cons r r' rest rest' hr _ ih =>
    obtain ⟨hscope, hsame⟩ := hr
    rw [ResolvedScopes.windowsFor_cons, ResolvedScopes.windowsFor_cons, ih]
    by_cases hidle : r.scope ∈ idle
    · have hdropped : p r.scope = false := hp _ hidle
      rw [← hscope, hdropped]
      rfl
    · rw [hsame hidle]

variable [DecidableEq S] [Tag S]

theorem contains_eq (h : Repaged idle requests requests') (t : S) :
    (ResolvedScopes.resolve requests).contains t =
      (ResolvedScopes.resolve requests').contains t := by
  have hnamed : ∀ requests : List (ScopeRequest S),
      (∃ r ∈ requests, r.scope = t ∨ Tag.isAll r.scope = true) ↔
        ∃ scope ∈ requests.map ScopeRequest.scope, scope = t ∨ Tag.isAll scope = true := by
    intro requests
    simp
  rw [Bool.eq_iff_iff, ResolvedScopes.contains_resolve, ResolvedScopes.contains_resolve, hnamed,
    hnamed, h.scopes_eq]

theorem window?_eq (h : Repaged idle requests requests')
    (hall : ∀ scope ∈ idle, Tag.isAll scope = false) {t : S} (ht : t ∉ idle) :
    (ResolvedScopes.resolve requests).window? t =
      (ResolvedScopes.resolve requests').window? t := by
  have hother : ∀ scope ∈ idle, (scope == t) = false := by
    intro scope hscope
    have hne : scope ≠ t := fun heq => ht (heq ▸ hscope)
    simpa using hne
  rw [ResolvedScopes.resolve_window?, ResolvedScopes.resolve_window?, h.windowsFor_eq hother,
    h.windowsFor_eq hall]

end ScopeRequest.Repaged

end ScopeComposer
