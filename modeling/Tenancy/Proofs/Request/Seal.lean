import Mathlib.Data.Set.Insert
import Tenancy.Proofs.World.Table

/-!
# Passwords of deleted users

A user is sealed when being deleted means having no usable password. Creation, deletion, and every update that sets the
status keep all users sealed. An update that sets only the password does not look at the status that is stored: on a deleted
user, it makes the password usable again (`Request.Unseals`). This is the only way in which a run of creations, updates and
deletions leaves a user unsealed.
-/

namespace Tenancy

/-- A user who is deleted has no usable password. -/
def User.Sealed (u : User) : Prop := u.status = .deleted → u.password = User.unusablePassword

instance (u : User) : Decidable u.Sealed := inferInstanceAs (Decidable (_ → _))

/-- Users that resemble each other are sealed alike. -/
theorem User.Resembles.sealed_congr {u v : User} (h : u.Resembles v) : u.Sealed ↔ v.Sealed := by
  rw [h]
  exact Iff.rfl

/-! ## Patches and seals -/

namespace Accounts

/-- A user that has been sealed is sealed. -/
theorem sealed_sealed (user : User) : (Accounts.sealed user).Sealed := by
  unfold Accounts.sealed
  split
  · exact fun _ => rfl
  · next hstatus => exact fun h => absurd h hstatus

/-- A patch as it is applied leaves a sealed user sealed, unless they are deleted and the patch sets another password without
a status. -/
theorem sealedPatch_sealed {u : User} (hu : u.Sealed) (patch : UserPatch) : ((sealedPatch patch).apply u).Sealed ↔
    ¬ (patch.status = none ∧ u.status = .deleted ∧
      ∃ password, patch.password = some password ∧ password ≠ User.unusablePassword) := by
  unfold sealedPatch
  split
  · next hstatus =>
    refine iff_of_true (fun _ => rfl) ?_
    rintro ⟨hnone, -⟩
    rw [hstatus] at hnone
    cases hnone
  · next hstatus =>
    cases hpatch : patch.status with
    | some status =>
      refine iff_of_true (fun hdeleted => ?_) (by rintro ⟨hnone, -⟩; cases hnone)
      have hdeleted : patch.status.getD u.status = .deleted := hdeleted
      rw [hpatch] at hdeleted hstatus
      exact absurd (congrArg some hdeleted) hstatus
    | none =>
      have happly : (patch.apply u).Sealed ↔
          (u.status = .deleted → patch.password.getD u.password = User.unusablePassword) := by
        unfold User.Sealed UserPatch.apply
        rw [hpatch]
        exact Iff.rfl
      rw [happly]
      cases hpassword : patch.password with
      | none => exact iff_of_true hu (by rintro ⟨-, -, password, h, -⟩; cases h)
      | some password =>
        constructor
        · rintro hsealed ⟨-, hdeleted, _, ⟨⟩, hne⟩
          exact hne (hsealed hdeleted)
        · intro h hdeleted
          by_contra hne
          exact h ⟨rfl, hdeleted, password, rfl, hne⟩

/-- A patch without a status keeps the one that is stored. -/
theorem sealedPatch_status {u : User} {patch : UserPatch} (h : patch.status = none) :
    ((sealedPatch patch).apply u).status = u.status := by
  simp [sealedPatch, UserPatch.apply, h]

end Accounts

/-! ## Requests -/

/-- What is relied on of the store of users. -/
structure World.KeepsUsers {σ : Type} (w : World σ) (users : σ → Set User) : Prop where
  /-- Calls that only read, and calls that fail, change nothing. -/
  steady : w.Steady users
  /-- A user is stored as given, up to id and times. -/
  created : ∀ s s' ctx (user stored : User), w.Moves s (.answered ctx (.users (.create user)) (.ok stored)) s' →
    stored.Resembles user ∧ users s' = insert stored (users s)
  /-- A patch is applied to the user who is stored, up to times. -/
  updated : ∀ s s' ctx id patch (stored : User), w.Moves s (.answered ctx (.users (.update id patch)) (.ok stored)) s' →
    ∃ u ∈ users s, u.id = id ∧ stored.Resembles (patch.apply u) ∧ users s' = insert stored {v ∈ users s | v.id ≠ id}
  /-- Nobody is stored by a deletion. -/
  deleted : ∀ s s' ctx id, w.Moves s (.answered ctx (.users (.delete id)) (.ok ())) s' → users s' ⊆ users s

/-- Whether a request creates, updates or deletes a user. -/
def Request.changesUser : Request → Bool
  | createUser _ => true
  | updateUser _ _ => true
  | deleteUser _ _ => true
  | _ => false

/-- A request sets the password of a user who is, and stays, deleted to another one than the unusable one. -/
def Request.Unseals (r : Request) (value : Except ServiceError Response) : Prop :=
  ∃ id patch password, ∃ user : User, r = .updateUser id patch ∧ patch.status = none ∧ patch.password = some password ∧
    password ≠ User.unusablePassword ∧ value = .ok (.user user) ∧ user.status = .deleted

namespace Platform

variable {σ : Type} {p : Platform} {w : World σ} {users : σ → Set User} {ctx : Context} {s : σ}

/-- A user who is created is sealed. -/
theorem sealed_create (hw : w.KeepsUsers users) (hs : ∀ u ∈ users s, u.Sealed) (user : User) :
    ∀ u ∈ users ((p.serve ctx (.createUser user)).run w s).state, u.Sealed := by
  intro u hu
  rcases done_or_failed hw.steady (r := .createUser user) rfl rfl rfl with ⟨hsame, -⟩ | ⟨stored, s₁, s₂, -, h₁, hmoves, h₂⟩
  · exact hs u (hsame ▸ hu)
  · obtain ⟨hstored, hinsert⟩ := hw.created s₁ s₂ ctx _ stored hmoves
    rw [h₂, hinsert, h₁] at hu
    rcases hu with rfl | hu
    · exact hstored.sealed_congr.mpr (Accounts.sealed_sealed user)
    · exact hs u hu

/-- A user who is deleted is sealed. -/
theorem sealed_delete (hw : w.KeepsUsers users) (hs : ∀ u ∈ users s, u.Sealed) (id : Id) (force : Bool) :
    ∀ u ∈ users ((p.serve ctx (.deleteUser id force)).run w s).state, u.Sealed := by
  intro u hu
  cases force with
  | true =>
    rcases done_or_failed hw.steady (r := .deleteUser id true) rfl rfl rfl with ⟨hsame, -⟩ | ⟨_, s₁, s₂, -, h₁, hmoves, h₂⟩
    · exact hs u (hsame ▸ hu)
    · rw [h₂] at hu
      exact hs u (h₁ ▸ hw.deleted s₁ s₂ ctx id hmoves hu)
  | false =>
    rcases done_or_failed hw.steady (r := .deleteUser id false) rfl rfl rfl with
      ⟨hsame, -⟩ | ⟨stored, s₁, s₂, -, h₁, hmoves, h₂⟩
    · exact hs u (hsame ▸ hu)
    · obtain ⟨v, -, -, hstored, hinsert⟩ := hw.updated s₁ s₂ ctx id _ stored hmoves
      rw [h₂, hinsert, h₁] at hu
      rcases hu with rfl | ⟨hu, -⟩
      · exact hstored.sealed_congr.mpr fun _ => rfl
      · exact hs u hu

/-- An update leaves all users sealed unless it unseals one. -/
theorem sealed_update (hw : w.KeepsUsers users) (hs : ∀ u ∈ users s, u.Sealed) (id : Id) (patch : UserPatch) :
    (∀ u ∈ users ((p.serve ctx (.updateUser id patch)).run w s).state, u.Sealed) ↔
      ¬ (Request.updateUser id patch).Unseals ((p.serve ctx (.updateUser id patch)).run w s).value := by
  rcases done_or_failed hw.steady (r := .updateUser id patch) rfl rfl rfl with
    ⟨hsame, e, hvalue⟩ | ⟨stored, s₁, s₂, hvalue, h₁, hmoves, h₂⟩
  · rw [hsame, hvalue]
    refine iff_of_true hs ?_
    rintro ⟨_, _, _, _, -, -, -, -, h, -⟩
    cases h
  · obtain ⟨v, hv, -, hstored, hinsert⟩ := hw.updated s₁ s₂ ctx id _ stored hmoves
    have hothers : (∀ u ∈ users ((p.serve ctx (.updateUser id patch)).run w s).state, u.Sealed) ↔ stored.Sealed := by
      rw [h₂, hinsert, h₁]
      refine ⟨fun h => h stored (Set.mem_insert _ _), fun h u hu => ?_⟩
      rcases hu with rfl | ⟨hu, -⟩
      · exact h
      · exact hs u hu
    have hstatus : patch.status = none → stored.status = v.status :=
      fun hnone => hstored.status.trans (Accounts.sealedPatch_status hnone)
    rw [hothers, hstored.sealed_congr, Accounts.sealedPatch_sealed (hs v (h₁ ▸ hv)) patch, hvalue]
    refine not_congr ⟨?_, ?_⟩
    · rintro ⟨hnone, hdeleted, password, hpassword, hne⟩
      exact ⟨id, patch, password, stored, rfl, hnone, hpassword, hne, rfl, (hstatus hnone).trans hdeleted⟩
    · rintro ⟨_, _, password, _, ⟨⟩, hnone, hpassword, hne, ⟨⟩, hdeleted⟩
      exact ⟨hnone, (hstatus hnone).symm.trans hdeleted, password, hpassword, hne⟩

/-- From a state in which all users are sealed, a request on users leaves them so unless it unseals one. -/
theorem sealed_serve (hw : w.KeepsUsers users) (hs : ∀ u ∈ users s, u.Sealed) {r : Request} (hr : r.changesUser = true) :
    (∀ u ∈ users ((p.serve ctx r).run w s).state, u.Sealed) ↔ ¬ r.Unseals ((p.serve ctx r).run w s).value := by
  cases r with
  | createUser user => exact iff_of_true (sealed_create hw hs user) (by rintro ⟨_, _, _, _, ⟨⟩, -⟩)
  | updateUser id patch => exact sealed_update hw hs id patch
  | deleteUser id force => exact iff_of_true (sealed_delete hw hs id force) (by rintro ⟨_, _, _, _, ⟨⟩, -⟩)
  | _ => cases hr

/-- **Passwords of deleted users.** When all users are sealed at first, they are so after each request of a run if and only
if none of the requests sets the password of a user who is deleted without setting the status as well. -/
theorem sealed_iff (hw : w.KeepsUsers users) (hs : ∀ u ∈ users s, u.Sealed) (requests : List (Context × Request))
    (hrequests : ∀ request ∈ requests, request.2.changesUser = true) :
    (∀ served, served <+: requests → ∀ u ∈ users (p.serveAll w s served), u.Sealed) ↔
      ∀ served ctx r, served ++ [(ctx, r)] <+: requests →
        ¬ r.Unseals ((p.serve ctx r).run w (p.serveAll w s served)).value := by
  constructor
  · intro h served ctx r hserved
    have hr : r.changesUser = true := hrequests (ctx, r) (hserved.subset (by simp))
    refine (sealed_serve hw (h served ((List.prefix_append _ _).trans hserved)) hr).mp ?_
    rw [← serveAll_append]
    exact h _ hserved
  · -- the run is extended at its end, where the condition speaks of the state before the last request
    intro h served
    induction served using List.reverseRecOn with
    | nil => exact fun _ => hs
    | append_singleton served request ih =>
      intro hserved
      obtain ⟨ctx, r⟩ := request
      have hr : r.changesUser = true := hrequests (ctx, r) (hserved.subset (by simp))
      rw [serveAll_append]
      exact (sealed_serve hw (ih ((List.prefix_append _ _).trans hserved)) hr).mpr (h served ctx r hserved)

end Platform

/-! ## A scene -/

namespace Scene

/-- The users who are stored in a scene. -/
def users (s : Scene) : Set User := {u | u ∈ s.store.users}

theorem users_eq (s : Scene) : s.users = ↑s.userTable := Set.ext fun _ => List.mem_toFinset.symm

/-- A scene keeps users. -/
theorem keepsUsers : world.KeepsUsers users where
  steady := steady_store.comp fun store => {u | u ∈ store.users}
  created s s' ctx user stored hmoves := by
    obtain ⟨hstored, hrows⟩ := follows_users s _ s' hmoves
    refine ⟨hstored, ?_⟩
    rw [users_eq, users_eq, hrows]
    exact Finset.coe_insert stored s.userTable
  updated s s' ctx id patch stored hmoves := by
    obtain ⟨⟨-, u, hu, hid, hstored⟩, hrows⟩ := follows_users s _ s' hmoves
    refine ⟨u, List.mem_toFinset.mp hu, hid, hstored, ?_⟩
    rw [users_eq, users_eq, hrows]
    simp [Change.apply, Record.id]
  deleted s s' ctx id hmoves := by
    obtain ⟨-, hrows⟩ := follows_users s _ s' hmoves
    rw [users_eq, users_eq, hrows]
    exact Finset.coe_subset.mpr (Finset.filter_subset _ _)

/-- A scene without users, in which one may create users and delete the first of them. -/
def vacant : Scene where
  store := ({} : Store).withPermission (Permission.fresh (Id.nth .user 9) (Id.nil .user) .create)
    |>.withPermission (Permission.fresh (Id.nth .user 9) (Id.nth .user 1) .delete)
  today := Store.creation

end Scene

namespace Platform

/-- A live context on behalf of the one who may create and delete users. -/
def administrator : Context := { principal := some (Id.nth .user 9), token := ⟨[1]⟩ }

/-- A user who is created, then deleted. -/
def departure : List (Context × Request) :=
  [(administrator, .createUser (User.fresh "ada" "ada@example.com" "secret")),
    (administrator, .deleteUser (Id.nth .user 1) false)]

/-- A user who is created and deleted stays sealed all along. -/
theorem sealed_iff_departure :
    (∀ request ∈ departure, request.2.changesUser = true) ∧
      ∀ served, served <+: departure → ∀ u ∈ Scene.users ((bare 5).serveAll Scene.world Scene.vacant served), u.Sealed := by
  have hrequests : ∀ request ∈ departure, request.2.changesUser = true := by decide
  refine ⟨hrequests, (sealed_iff (p := bare 5) Scene.keepsUsers (s := Scene.vacant) (fun u hu => absurd hu List.not_mem_nil)
    departure hrequests).mpr ?_⟩
  rintro served ctx r hserved ⟨id, patch, password, user, rfl, -⟩
  have hmem : (ctx, Request.updateUser id patch) ∈ departure := hserved.subset (by simp)
  simp [departure] at hmem

/-- A deleted user who sets a password is stored with it. -/
theorem unsealed_by_password :
    Scene.world.KeepsUsers Scene.users ∧ (∀ u ∈ Scene.users Scene.vacant, u.Sealed) ∧
      ¬ ∀ requests : List (Context × Request), (∀ request ∈ requests, request.2.changesUser = true) →
        ∀ u ∈ Scene.users ((bare 5).serveAll Scene.world Scene.vacant requests), u.Sealed := by
  refine ⟨Scene.keepsUsers, fun u hu => absurd hu List.not_mem_nil, fun h => ?_⟩
  have hall : ∀ u ∈ ((bare 5).serveAll Scene.world Scene.vacant
      (departure ++ [(firstUser, .updateUser (Id.nth .user 1) { password := some "hunter2" })])).store.users, u.Sealed :=
    h _ (by decide)
  revert hall
  decide +kernel

end Platform

end Tenancy
