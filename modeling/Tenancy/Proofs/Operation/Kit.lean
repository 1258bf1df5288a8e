import Tenancy.Operation.Kit

/-!
# What a list of offers comes to

Taking offers fails at the first that withholds its collaborator, whatever comes before or after it. When none does, what
there is of each kind is what the last offer of that kind gave, or what there was at the start when no offer is of it.
-/

namespace Tenancy

variable {κ : Collaborator → Type}

/-- Whether an offer withholds its collaborator. -/
def Offer.withheld (offer : Offer κ) : Bool := offer.handle?.isNone

namespace Kit

variable {start kit : Kit κ} {offers : List (Offer κ)} {c : Collaborator}

@[simp] theorem put_self {handle : κ c} : start.put c handle c = some handle := by simp [put]

/-- What is put into a kit leaves the other places as they are. -/
theorem put_of_ne {d : Collaborator} {handle : κ c} (h : d ≠ c) : start.put c handle d = start d := by simp [put, h]

/-- A collaborator that is offered is put into the kit. -/
@[simp] theorem take_given {handle : κ c} : start.take ⟨c, some handle⟩ = .ok (start.put c handle) := rfl

/-- What offers leave of a kind: what the last offer of the kind gave, or what there was at the start when none is of it. -/
inductive Settled (start : Kit κ) (offers : List (Offer κ)) (c : Collaborator) : Option (κ c) → Prop
  | last {before after : List (Offer κ)} {handle : κ c} (split : offers = before ++ ⟨c, some handle⟩ :: after)
      (others : ∀ offer ∈ after, offer.collaborator ≠ c) : Settled start offers c (some handle)
  | untouched (others : ∀ offer ∈ offers, offer.collaborator ≠ c) : Settled start offers c (start c)

namespace Settled

/-- What offers leave once a first one has been taken is what the first leaves with them. -/
theorem cons {d : Collaborator} {given : κ d} {handle? : Option (κ c)} (h : Settled (start.put d given) offers c handle?) :
    Settled start (⟨d, some given⟩ :: offers) c handle? := by
  cases h with
  | @last before after handle split others => exact .last (by rw [split]; exact (List.cons_append ..).symm) others
  | untouched others =>
    by_cases same : c = d
    · subst same
      rw [put_self]
      exact .last (List.nil_append _).symm others
    · rw [put_of_ne same]
      exact .untouched (List.forall_mem_cons.mpr ⟨Ne.symm same, others⟩)

/-- Where no offer after one of a kind is of that kind, a later offer of the kind is that very one. -/
theorem handle_eq {between after after' : List (Offer κ)} {handle handle' : κ c}
    (rest : ⟨c, some handle⟩ :: after = between ++ ⟨c, some handle'⟩ :: after')
    (others : ∀ offer ∈ after, offer.collaborator ≠ c) : handle = handle' := by
  cases between with
  | nil => cases rest; rfl
  | cons offer between =>
    have here : (⟨c, some handle'⟩ : Offer κ) ∈ after := by
      rw [(List.cons.inj rest).2]
      exact List.mem_append_cons_self
    exact absurd rfl (others _ here)

/-- No more than one thing can come of offers. -/
theorem unique {first second : Option (κ c)} (h : Settled start offers c first) (h' : Settled start offers c second) :
    first = second := by
  cases h with
  | last split others =>
    cases h' with
    | last split' others' =>
      rcases List.append_eq_append_iff.mp (split.symm.trans split') with ⟨_, -, rest⟩ | ⟨_, -, rest⟩
      · rw [handle_eq rest others]
      · rw [handle_eq rest others']
    | untouched never =>
      subst split
      exact absurd rfl (never _ List.mem_append_cons_self)
  | untouched never =>
    cases h' with
    | last split _ =>
      subst split
      exact absurd rfl (never _ List.mem_append_cons_self)
    | untouched _ => rfl

end Settled

end Kit

end Tenancy
