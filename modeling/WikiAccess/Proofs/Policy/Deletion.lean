import WikiAccess.Proofs.Policy.Grants

/-!
# Deleting grants

`Policy.only` is what is left of a policy when every grant is deleted that is not kept.
It is the policy that would have been built up without those grants
(`oracle_only_ofGrants`), and a session cannot tell it from the whole policy by asking for
a permission that no deleted grant implies (`ask_oracle_only`).
-/

namespace WikiAccess
namespace Multimap

variable {κ ν : Type}

/-- The values that are kept, under the same keys. -/
def only (m : Multimap κ ν) (keep : κ → ν → Bool) : Multimap κ ν :=
  ⟨m.entries.map fun entry => (entry.1, entry.2.filter (keep entry.1))⟩

theorem valuesOf_only [DecidableEq κ] (m : Multimap κ ν) (keep : κ → ν → Bool) (key : κ) :
    (m.only keep).valuesOf key = (m.valuesOf key).filter (keep key) := by
  obtain ⟨entries⟩ := m
  unfold only valuesOf
  induction entries with
  | nil => rfl
  | cons entry rest ih =>
    obtain ⟨k, values⟩ := entry
    rw [List.map_cons]
    by_cases h : key = k
    · simp [h]
    · rw [lookup_entry_of_ne h, lookup_entry_of_ne h]
      exact ih

end Multimap

namespace Policy

/-- What is left of a policy when every grant is deleted that is not kept. -/
def only (policy : Policy) (keep : String → Permission → Bool) : Policy :=
  ⟨policy.grants.only keep⟩

variable {policy other : Policy} {keep : String → Permission → Bool}

theorem grantsFor_only (policy : Policy) (keep : String → Permission → Bool)
    (principal : String) :
    (policy.only keep).grantsFor principal =
      (policy.grantsFor principal).filter (keep principal) :=
  Multimap.valuesOf_only policy.grants keep principal

/-- Nothing but what was granted to each name shows in a policy. -/
theorem oracle_congr (h : ∀ principal, other.grantsFor principal = policy.grantsFor principal) :
    other.oracle = policy.oracle := by
  have hgrantsTo : other.grantsTo = policy.grantsTo := by
    funext requested principal
    rw [grantsTo, grantsTo, h]
  unfold oracle holds granter?
  rw [hgrantsTo]

theorem oracle_only_ofGrants (grants : List (String × Permission))
    (keep : String → Permission → Bool) :
    ((ofGrants grants).only keep).oracle =
      (ofGrants (grants.filter fun grant => keep grant.1 grant.2)).oracle := by
  refine oracle_congr fun principal => ?_
  rw [grantsFor_only, grantsFor_ofGrants, grantsFor_ofGrants, List.filter_map,
    List.filter_filter, List.filter_filter]
  refine congrArg (List.map Prod.snd) (List.filter_congr fun grant _ => ?_)
  by_cases h : grant.1 = principal
  · simp [h]
  · simp [h]

/-! ## Grants that do not matter to a question -/

theorem grantsTo_only {requested : Permission} {principal : String}
    (h : ∀ held, held.implies requested = true → keep principal held = true) :
    (policy.only keep).grantsTo requested principal = policy.grantsTo requested principal := by
  unfold grantsTo
  rw [grantsFor_only, List.any_filter]
  refine List.any_congr rfl fun held => ?_
  cases himplies : held.implies requested with
  | false => exact Bool.and_false _
  | true => rw [h held himplies, Bool.and_self]

theorem granter?_only {session : Session} {requested : Permission}
    (h : ∀ principal ∈ session.principals, ∀ held, held.implies requested = true →
      keep principal held = true) :
    (policy.only keep).granter? session requested = policy.granter? session requested := by
  have hfilter : session.principals.filter ((policy.only keep).grantsTo requested) =
      session.principals.filter (policy.grantsTo requested) :=
    List.filter_congr fun principal hprincipal => grantsTo_only (h principal hprincipal)
  rw [granter?, granter?, ← List.head?_filter, ← List.head?_filter, hfilter]

theorem ask_oracle_only {ε : Type} {session : Session} {requested : Permission}
    (h : ∀ principal ∈ session.principals, ∀ held, held.implies requested = true →
      keep principal held = true) :
    ((policy.only keep).oracle.ask session requested : Run ε Bool) =
      policy.oracle.ask session requested := by
  simp only [Oracle.ask, oracle, holds, granter?_only h]

end Policy
end WikiAccess
