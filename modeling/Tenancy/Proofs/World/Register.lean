import Tenancy.Proofs.World.Table

/-!
# Registers of access

What is stored about access: the permissions that were granted, and the roles that are held on the platform. What is relied on
of the stores (`Register.Turns`) is that they change only when a call says so, and that a question about access is answered by
yes exactly when a permission or a role that is asked for is held.
-/

namespace Tenancy

/-- Whoever asks for some kinds is content with any of them, and with all rights. -/
theorem PermissionKind.mem_withAll_iff {kinds : List PermissionKind} {kind : PermissionKind} :
    kind ∈ withAll kinds ↔ kind ∈ kinds ∨ kind = .all := by
  unfold withAll
  split
  · next h =>
    constructor
    · exact .inl
    · rintro (hmem | rfl)
      · exact hmem
      · exact List.contains_iff_mem.mp h
  · simp

/-- The permissions that were granted, and the roles that are held on the platform. -/
structure Register where
  grants : Finset Permission
  roles : Finset (Id × SystemRole)

namespace Register

variable {R R' : Register} {subject target : Id} {kinds kinds' : List PermissionKind}

/-- More is granted in one register than in another. -/
instance : LE Register where
  le R R' := R.grants ⊆ R'.grants ∧ R.roles ⊆ R'.roles

/-- A permission of a kind on a target is granted to a subject. -/
def Holds (R : Register) (subject target : Id) (kind : PermissionKind) : Prop :=
  ∃ g ∈ R.grants, g.subject = subject ∧ g.target = target ∧ g.kind = kind

/-- A permission of one of some kinds, or all rights, on a target are granted to a subject. -/
def Entitles (R : Register) (subject target : Id) (kinds : List PermissionKind) : Prop :=
  ∃ kind, R.Holds subject target kind ∧ (kind ∈ kinds ∨ kind = .all)

/-- One of some roles is held by a subject. -/
def Ranks (R : Register) (subject : Id) (roles : List SystemRole) : Prop := ∃ role ∈ roles, (subject, role) ∈ R.roles

/-- A question about access is to be answered by yes. -/
def Answers (R : Register) : AccessCall → Prop
  | .hasPermission subject target kinds => ∃ kind ∈ kinds, R.Holds subject target kind
  | .hasSystemRole subject roles => R.Ranks subject roles

/-- What is relied on of the stores when an event comes to pass. -/
structure Turns (R : Register) (e : Event) (R' : Register) : Prop where
  unchanged : e.changes = false → R' = R
  truthful : ∀ (a : AccessCall) (yes : Bool), e.done? = some ⟨.access a, yes⟩ → (yes = true ↔ R.Answers a)

/-- Only changes change a register. -/
theorem isSteady_turns : IsSteady Turns := fun _ _ _ hchanges h => h.unchanged hchanges

/-- The question for some kinds, or for all of them, is answered as rights are held. -/
theorem answers_withAll_iff :
    R.Answers (.hasPermission subject target (PermissionKind.withAll kinds)) ↔ R.Entitles subject target kinds := by
  simp only [Answers, Entitles, PermissionKind.mem_withAll_iff, and_comm]

/-- A right is kept when rights are added. -/
theorem Holds.mono {kind : PermissionKind} (h : R.Holds subject target kind) (hR : R ≤ R') :
    R'.Holds subject target kind := by
  obtain ⟨g, hg, hmatch⟩ := h
  exact ⟨g, hR.1 hg, hmatch⟩

/-- Nobody loses anything when more is granted or more is asked for. -/
theorem Entitles.mono (h : R.Entitles subject target kinds) (hR : R ≤ R') (hkinds : kinds ⊆ kinds') :
    R'.Entitles subject target kinds' := by
  obtain ⟨kind, hholds, hkind⟩ := h
  exact ⟨kind, hholds.mono hR, hkind.imp_left fun hmem => hkinds hmem⟩

/-- A role is kept when rights are added, and when more roles are asked for. -/
theorem Ranks.mono {roles roles' : List SystemRole} (h : R.Ranks subject roles) (hR : R ≤ R') (hroles : roles ⊆ roles') :
    R'.Ranks subject roles' := by
  obtain ⟨role, hrole, hmem⟩ := h
  exact ⟨role, hroles hrole, hR.2 hmem⟩

end Register

/-! ## A scene -/

namespace Scene

/-- What is granted in a scene. -/
def register (s : Scene) : Register := ⟨s.permissionTable, s.store.systemRoles.toFinset⟩

/-- A scene answers questions as its register does. -/
theorem register_answers_iff {s : Scene} {a : AccessCall} : s.store.grants a = true ↔ s.register.Answers a := by
  cases a with
  | hasPermission subject target kinds =>
    simp only [Store.grants, List.any_eq_true, Bool.and_eq_true, beq_iff_eq, List.contains_iff_mem, Register.Answers,
      Register.Holds, register, permissionTable, List.mem_toFinset]
    constructor
    · rintro ⟨g, hg, ⟨hsubject, htarget⟩, hkind⟩
      exact ⟨g.kind, hkind, g, hg, hsubject, htarget, rfl⟩
    · rintro ⟨_, hkind, g, hg, hsubject, htarget, rfl⟩
      exact ⟨g, hg, ⟨hsubject, htarget⟩, hkind⟩
  | hasSystemRole subject roles =>
    simp only [Store.grants, List.any_eq_true, Bool.and_eq_true, beq_iff_eq, List.contains_iff_mem, Register.Answers,
      Register.Ranks, register, List.mem_toFinset]
    constructor
    · rintro ⟨⟨_, role⟩, hmem, rfl, hrole⟩
      exact ⟨role, hrole, hmem⟩
    · rintro ⟨role, hrole, hmem⟩
      exact ⟨(subject, role), hmem, rfl, hrole⟩

/-- A scene answers questions about access from what is granted in it. -/
theorem follows_register : world.Follows register Register.Turns := by
  intro s e s' hmoves
  constructor
  · intro hchanges
    simp only [register, permissionTable, show s'.store = s.store from steady_store s e s' hmoves hchanges]
  · intro a yes hdone
    have hanswer := done_ok hmoves hdone rfl
    rw [← register_answers_iff, show s.store.grants a = yes from Except.ok.inj (Prod.mk.inj hanswer).1]

end Scene

end Tenancy
