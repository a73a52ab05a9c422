import Mysya.OnlineActors

/-!
# The argent ids of the actors

An actor is known to the combat servers by its argent id, which it gets when it is allocated and
keeps. As long as the counter does not start again no two actors have the same.
-/

namespace Mysya

namespace Gateway

variable {s t : Gateway} {name : String}

/-- Each actor has an argent id that was given to it only. -/
structure Identified (s : Gateway) : Prop where
  given : ∀ name x, s.argent name = some x → x ≤ s.argentIds
  distinct : ∀ name name' x, s.argent name = some x → s.argent name' = some x → name = name'

/-- There is an argent id for one more actor. -/
def HasIds (s : Gateway) : Action → Prop
  | .loginRequest _ _ _ _ => s.argentIds < s.argentIds + 1
  | _ => True

instance (s : Gateway) : (a : Action) → Decidable (s.HasIds a)
  | .loginRequest .. => inferInstanceAs (Decidable (s.argentIds < s.argentIds + 1))
  | .connected .. => instDecidableTrue
  | .combatRequest .. => instDecidableTrue
  | .close .. => instDecidableTrue
  | .deployResponse .. => instDecidableTrue
  | .connectArgentResponse .. => instDecidableTrue
  | .beginResponse .. => instDecidableTrue
  | .settlementSync .. => instDecidableTrue

theorem start_identified (maps : Int → Option MapConf) (warriorConfs : List WarriorDescription) :
    (start maps warriorConfs).Identified :=
  ⟨fun _ _ hx => (by cases hx), fun _ _ _ hx => by cases hx⟩

theorem Identified.same (h : s.Identified) (hargent : t.argent = s.argent)
    (hids : t.argentIds = s.argentIds) : t.Identified := by
  constructor
  · rw [hargent, hids]
    exact h.given
  · rw [hargent]
    exact h.distinct

theorem allocateActor_argent (s : Gateway) (name : String) :
    (s.allocateActor name).argent = Function.update s.argent name (some (s.argentIds + 1)) := by
  funext other
  show (Function.update s.combatActors name _ other).map _ = _
  by_cases heq : other = name
  · subst heq
    rw [Function.update_self, Function.update_self]
    rfl
  · rw [Function.update_of_ne heq, Function.update_of_ne heq]
    rfl

/-- A new actor gets an id above all that were given. -/
theorem Identified.allocateActor (h : s.Identified) (hids : s.argentIds < s.argentIds + 1) :
    (s.allocateActor name).Identified := by
  have hfresh : ∀ other, s.argent other ≠ some (s.argentIds + 1) := fun other hother =>
    absurd (h.given other _ hother) (UInt64.not_le.mpr hids)
  constructor
  · intro other x hx
    rw [allocateActor_argent] at hx
    rcases Table.insert_some hx with ⟨_, rfl⟩ | ⟨_, hold⟩
    · exact UInt64.le_refl _
    · exact UInt64.le_trans (h.given other x hold) (UInt64.le_of_lt hids)
  · intro other other' x hx hx'
    rw [allocateActor_argent] at hx hx'
    rcases Table.insert_some hx with ⟨rfl, rfl⟩ | ⟨_, hold⟩
    · rcases Table.insert_some hx' with ⟨rfl, _⟩ | ⟨_, hold'⟩
      · rfl
      · exact absurd hold' (hfresh other')
    · rcases Table.insert_some hx' with ⟨rfl, rfl⟩ | ⟨_, hold'⟩
      · exact absurd hold (hfresh other)
      · exact h.distinct other other' x hold hold'

theorem Identified.login (h : s.Identified) {sockfd : Int} {name : Option String}
    {allocated session : Bool} (hids : s.argentIds < s.argentIds + 1)
    (hlogin : s.onMessageLoginRequest sockfd name allocated session = some t) : t.Identified := by
  unfold onMessageLoginRequest at hlogin
  split at hlogin
  · cases hlogin
    exact h
  · rename_i name _
    split at hlogin
    · cases hlogin
      exact h.same rfl rfl
    · have hfound : (if (s.combatActors name).isNone then s.allocateActor name else s).Identified := by
        split
        · exact h.allocateActor hids
        · exact h
      dsimp only at hlogin
      generalize (if (s.combatActors name).isNone then s.allocateActor name else s) = u at *
      split at hlogin
      · cases hlogin
      · split at hlogin
        · cases hlogin
          exact hfound.same rfl rfl
        · have hseated : (u.modifyActor name fun actor =>
              { actor with actor := some sockfd }).Identified :=
            hfound.same (argent_modifyActor u name fun _ => rfl) rfl
          split at hlogin
          · cases hlogin
            exact hseated.same rfl rfl
          · split at hlogin
            · cases hlogin
            · split at hlogin
              · cases hlogin
                exact hseated.same rfl rfl
              · cases hlogin
                exact hseated.same rfl rfl
  · cases hlogin
    exact h.same rfl rfl

theorem Identified.step (h : s.Identified) (honline : s.Online) {a : Action} (hids : s.HasIds a)
    (hstep : s.step a = some t) : t.Identified := by
  rcases honline.sameActors hstep with hsame | ⟨sockfd, rfl | rfl⟩ |
    ⟨sockfd, name, allocated, session, rfl⟩
  · exact h.same hsame.argent hsame.argentIds
  · cases hstep
    rw [onConnected]
    split
    · exact h
    · exact h.same rfl rfl
  · cases hstep
    rw [onClose]
    split
    · exact h
    · dsimp only
      split
      · exact h.same rfl rfl
      · exact h.same (argent_modifyActor _ _ fun _ => rfl) rfl
  · exact h.login hids hstep

end Gateway

end Mysya
