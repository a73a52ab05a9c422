import Mysya.SessionLinks

/-!
# Frames of the combats

A result about combats and roles reads little of either. What it reads is given by two views, `f`
of a combat and `g` of a role, and a step is framed by them when the registries stay and nothing
that is read changes. Each step is gone through once, for all views that are blind to what it does.
-/

open Std

namespace Mysya

namespace CombatManagers

variable {α β : Type*} {f : CombatField → α} {g : CombatRoleField → β}
  {s s' s'' : CombatManagers} {p q : Ptr}

/-- The registries stay, and all that the views show. -/
structure Frame (f : CombatField → α) (g : CombatRoleField → β) (s s' : CombatManagers) :
    Prop where
  combats : s'.combats = s.combats
  combatIds : s'.combatIds = s.combatIds
  roles : s'.roles = s.roles
  combat : ∀ p, f (s'.combat p) = f (s.combat p)
  role : ∀ q, g (s'.role q) = g (s.role q)

theorem Frame.refl (s : CombatManagers) : Frame f g s s :=
  ⟨rfl, rfl, rfl, fun _ => rfl, fun _ => rfl⟩

theorem Frame.trans (h : Frame f g s s') (h' : Frame f g s' s'') : Frame f g s s'' where
  combats := h'.combats.trans h.combats
  combatIds := h'.combatIds.trans h.combatIds
  roles := h'.roles.trans h.roles
  combat := fun p => (h'.combat p).trans (h.combat p)
  role := fun q => (h'.role q).trans (h.role q)

/-- A change beside the registries and the objects. -/
theorem frame_outside (hcombats : s'.combats = s.combats) (hids : s'.combatIds = s.combatIds)
    (hroles : s'.roles = s.roles) (hcombat : ∀ p, s'.combat p = s.combat p)
    (hrole : ∀ q, s'.role q = s.role q) : Frame f g s s' where
  combats := hcombats
  combatIds := hids
  roles := hroles
  combat := fun p => by rw [hcombat]
  role := fun q => by rw [hrole]

theorem frame_send (s : CombatManagers) (session : SessionPtr) (message : CombatMessage) :
    Frame f g s (s.send session message) :=
  frame_outside rfl rfl rfl (fun _ => rfl) fun _ => rfl

theorem frame_modifyRole {change : CombatRoleField → CombatRoleField}
    (hchange : g (change (s.role q)) = g (s.role q)) : Frame f g s (s.modifyRole q change) where
  combats := rfl
  combatIds := rfl
  roles := rfl
  combat := fun _ => rfl
  role := fun q' => by
    rcases modifyRole_or s q q' change with hsame | ⟨rfl, hchanged⟩
    · rw [hsame]
    · rw [hchanged, hchange]

theorem frame_modifyCombat {change : CombatField → CombatField}
    (hchange : f (change (s.combat p)) = f (s.combat p)) :
    Frame f g s (s.modifyCombat p change) where
  combats := rfl
  combatIds := rfl
  roles := rfl
  combat := fun p' => by
    rcases modifyCombat_or s p p' change with hsame | ⟨rfl, hchanged⟩
    · rw [hsame]
    · rw [hchanged, hchange]
  role := fun _ => rfl

theorem frame_sendSettlement (s : CombatManagers) (p : Ptr) :
    Frame f g s (s.sendSettlement p) := by
  rw [sendSettlement]
  split
  · exact .refl s
  · exact frame_send s _ _

theorem frame_accept (s : CombatManagers) (session : SessionPtr) :
    Frame f g s (s.accept session) := by
  rw [accept]
  split
  · exact .refl s
  · exact frame_outside rfl rfl rfl (fun _ => rfl) fun _ => rfl

theorem frame_refund (hsupply : ∀ (role : CombatRoleField) n, g (role.incSupply n) = g role)
    (s : CombatManagers) (p : Ptr) (warriorId : Int) : Frame f g s (s.refund p warriorId) := by
  rw [refund]
  split
  · exact .refl s
  · exact frame_modifyRole (hsupply _ _)

/-- The views show no timer, no session, no resources and no capacity. -/
structure Blind (f : CombatField → α) (g : CombatRoleField → β) : Prop where
  timerIdSettle : ∀ combat id, f { combat with timerIdSettle := id } = f combat
  timerIdResourceRecover : ∀ combat id, f { combat with timerIdResourceRecover := id } = f combat
  combatSession : ∀ combat, f { combat with appSession := none } = f combat
  roleSession : ∀ role session, g { role with appSession := session } = g role
  supplyMax : ∀ role n, g { role with supplyMax := n } = g role
  resources : ∀ (role : CombatRoleField) food elixir,
    g ((role.incFood food).incElixir elixir) = g role

namespace Blind

theorem allocateSupplies (h : Blind f g) (combat : CombatField) (l : List UInt64)
    (s : CombatManagers) : Frame f g s (s.allocateSupplies combat l) :=
  keeps_allocateSupplies (fun _ hs _ _ _ _ _ => hs.trans (frame_modifyRole (h.supplyMax _ _)))
    (.refl s)

theorem recoverRoles (h : Blind f g) (combat : CombatField) (l : List UInt64)
    (s : CombatManagers) : Frame f g s (s.recoverRoles combat l) :=
  keeps_recoverRoles (fun _ hs _ _ _ _ _ _ => hs.trans (frame_modifyRole (h.resources _ _ _)))
    (.refl s)

theorem convertCamp (h : Blind f g)
    (hnumber : ∀ (role : CombatRoleField) n, g (role.incBuildingNum n) = g role)
    (s : CombatManagers) (p : Ptr) (originalHostId hostId : UInt64) :
    Frame f g s (s.onEventCombatConvertCamp p originalHostId hostId) :=
  keeps_convertCamp (fun _ hs _ _ => hs.trans (frame_modifyRole (hnumber _ _)))
    (fun _ hs _ _ => hs.trans (frame_modifyRole (h.supplyMax _ _))) (.refl s)

theorem setAppSession (h : Blind f g) (s : CombatManagers) (q : Ptr) (session : SessionPtr) :
    Frame f g s (s.setAppSession q session) :=
  (frame_modifyRole (h.roleSession _ _)).trans
    (frame_outside rfl rfl rfl (fun _ => rfl) fun _ => rfl)

theorem connectArgent (h : Blind f g) (s : CombatManagers) (session : SessionPtr) (r : UInt64)
    (combatId : Int) : Frame f g s (s.onMessageCombatConnectArgentRequest session r combatId) := by
  rw [onMessageCombatConnectArgentRequest]
  split
  · exact frame_send s _ _
  · exact (h.setAppSession s _ _).trans (frame_send _ _ _)

theorem reconnect (h : Blind f g) (s : CombatManagers) (session : SessionPtr) (r : UInt64)
    (combatId : Int) : Frame f g s (s.onMessageCombatReconnectRequest session r combatId) := by
  rw [onMessageCombatReconnectRequest]
  split
  · exact (h.setAppSession s _ _).trans (frame_send _ _ _)
  · exact .refl s

theorem closeSession (h : Blind f g) (s : CombatManagers) (session : SessionPtr) :
    Frame f g s (s.closeSession session) := by
  have hcombats : ∀ (l : List Ptr) (s : CombatManagers), Frame f g s (l.foldl resetCombat s) := by
    intro l
    induction l with
    | nil => exact .refl
    | cons p l ih =>
      exact fun s => (frame_modifyCombat (h.combatSession _)).trans (ih (s.resetCombat p))
  have hroles : ∀ (l : List Ptr) (s : CombatManagers), Frame f g s (l.foldl resetRole s) := by
    intro l
    induction l with
    | nil => exact .refl
    | cons q l ih =>
      exact fun s => (frame_modifyRole (h.roleSession _ _)).trans (ih (s.resetRole q))
  rw [CombatManagers.closeSession]
  split
  · exact .refl s
  · exact ((hcombats _ s).trans (hroles _ _)).trans
      (frame_outside rfl rfl rfl (fun _ => rfl) fun _ => rfl)

/-- The timers of the combat and the capacities of its roles, and the answer. -/
theorem begin (h : Blind f g) (s : Server) (session : SessionPtr) (combatId : Int) :
    Frame f g s.managers (s.onMessageCombatBeginRequest session combatId).managers := by
  rw [Server.onMessageCombatBeginRequest]
  split
  · exact frame_send _ _ _
  · rename_i p _
    have hsettle : Frame f g s.managers (s.setSettleTimer p).managers :=
      frame_modifyCombat (h.timerIdSettle _ _)
    have hrecover : Frame f g (s.setSettleTimer p).managers
        ((s.setSettleTimer p).setResourceRecoverTimer p).managers :=
      frame_modifyCombat (h.timerIdResourceRecover _ _)
    have hsupply : Frame f g ((s.setSettleTimer p).setResourceRecoverTimer p).managers
        (s.beginning p).managers := h.allocateSupplies _ _ _
    dsimp only
    split
    · exact .refl s.managers
    · exact ((hsettle.trans hrecover).trans hsupply).trans (frame_send _ _ _)

end Blind

end CombatManagers

end Mysya
