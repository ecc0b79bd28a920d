import TypedQuery.Build.Cancel
import Mathlib.Logic.Relation
import Mathlib.Data.List.Induction
import Mathlib.Data.List.Basic

/-! Which cancels a token sees: those on tokens that are its clones, or it theirs, over any number
of steps. -/
namespace TypedQuery.Build

/-- What the holders of tokens do. -/
inductive Action where
  | fresh
  | clone (token : Nat)
  | cancel (token : Nat)
  deriving DecidableEq, Repr

namespace CancelTokens

def perform (tokens : CancelTokens) : Action → CancelTokens
  | .fresh => tokens.fresh
  | .clone token => tokens.clone token
  | .cancel token => tokens.cancel token

/-- The tokens after some actions, from none. -/
def after (actions : List Action) : CancelTokens := actions.foldl perform empty

end CancelTokens

/-- For each token in the order in which they were made, the one that it is a clone of, if it is. A
token that is not there has no clones. -/
def addOrigin (origins : List (Option Nat)) : Action → List (Option Nat)
  | .fresh => origins ++ [none]
  | .clone token => if token < origins.length then origins ++ [some token] else origins
  | .cancel _ => origins

def origins (actions : List Action) : List (Option Nat) := actions.foldl addOrigin []

/-- The token `a` was made as a clone of `b`. -/
def IsClone (actions : List Action) (a b : Nat) : Prop := (origins actions)[a]? = some (some b)

/-- The tokens are one, or clones over any number of steps. -/
def SharesFlag (actions : List Action) : Nat → Nat → Prop := Relation.EqvGen (IsClone actions)

/-- A token that was there at that time has been cancelled. -/
def WasCancelled (actions : List Action) (token : Nat) : Prop :=
  ∃ before after, actions = before ++ .cancel token :: after ∧ token < (origins before).length

variable {actions : List Action} {action : Action} {a b token : Nat}

section Concat

theorem after_concat (actions : List Action) (action : Action) :
    CancelTokens.after (actions ++ [action]) = (CancelTokens.after actions).perform action := by
  rw [CancelTokens.after, List.foldl_append]
  rfl

theorem origins_concat (actions : List Action) (action : Action) :
    origins (actions ++ [action]) = addOrigin (origins actions) action := by
  rw [origins, List.foldl_append]
  rfl

theorem prefix_addOrigin (origins : List (Option Nat)) (action : Action) :
    origins <+: addOrigin origins action := by
  cases action with
  | fresh => exact List.prefix_append _ _
  | clone token =>
    rw [addOrigin]
    split
    · exact List.prefix_append _ _
    · exact List.prefix_rfl
  | cancel token => exact List.prefix_rfl

theorem IsClone.concat (h : IsClone actions a b) (action : Action) :
    IsClone (actions ++ [action]) a b := by
  obtain ⟨more, hmore⟩ := prefix_addOrigin (origins actions) action
  obtain ⟨hlt, _⟩ := List.getElem?_eq_some_iff.mp h
  rw [IsClone, origins_concat, ← hmore, List.getElem?_append_left hlt]
  exact h

theorem SharesFlag.concat (h : SharesFlag actions a b) (action : Action) :
    SharesFlag (actions ++ [action]) a b :=
  Relation.EqvGen.mono (fun _ _ hclone => hclone.concat action) a b h

theorem wasCancelled_concat : WasCancelled (actions ++ [action]) token ↔
    WasCancelled actions token ∨ action = .cancel token ∧ token < (origins actions).length := by
  constructor
  · rintro ⟨before, after, hactions, hlt⟩
    rcases List.eq_nil_or_concat' after with rfl | ⟨after, last, rfl⟩
    · obtain ⟨rfl, hlast⟩ := List.append_inj' hactions rfl
      exact .inr ⟨(List.cons.inj hlast).1, hlt⟩
    · rw [← List.cons_append, ← List.append_assoc] at hactions
      exact .inl ⟨before, after, (List.append_inj' hactions rfl).1, hlt⟩
  · rintro (⟨before, after, rfl, hlt⟩ | ⟨rfl, hlt⟩)
    · exact ⟨before, after ++ [action], by simp, hlt⟩
    · exact ⟨actions, [], rfl, hlt⟩

theorem WasCancelled.lt (h : WasCancelled actions token) : token < (origins actions).length := by
  induction actions using List.reverseRecOn with
  | nil =>
    obtain ⟨before, after, hactions, _⟩ := h
    simp at hactions
  | append_singleton actions action ih =>
    have hle := (prefix_addOrigin (origins actions) action).length_le
    rw [origins_concat]
    rcases wasCancelled_concat.mp h with h | ⟨_, h⟩
    · exact Nat.lt_of_lt_of_le (ih h) hle
    · exact Nat.lt_of_lt_of_le h hle

end Concat

theorem getElem?_concat_eq_some_iff {α : Type} {l : List α} {x y : α} {i : Nat} :
    (l ++ [x])[i]? = some y ↔ l[i]? = some y ∨ i = l.length ∧ x = y := by
  rcases Nat.lt_trichotomy i l.length with hlt | rfl | hgt
  · rw [List.getElem?_append_left hlt]
    simp [Nat.ne_of_lt hlt]
  · simp
  · have hend : (l ++ [x]).length ≤ i := by
      rw [List.length_append]
      exact hgt
    rw [List.getElem?_eq_none hend, List.getElem?_eq_none (Nat.le_of_lt hgt)]
    simp [Nat.ne_of_gt hgt]

/-- The flags are as the actions so far ask for. -/
structure Traces (actions : List Action) (tokens : CancelTokens) : Prop where
  length : tokens.flagOf.length = (origins actions).length
  bound : ∀ {token flag : Nat}, tokens.flagOf[token]? = some flag → flag < tokens.flags.length
  same : ∀ {a b : Nat}, IsClone actions a b →
    ∃ flag, tokens.flagOf[a]? = some flag ∧ tokens.flagOf[b]? = some flag
  shares : ∀ {a b flag : Nat}, tokens.flagOf[a]? = some flag → tokens.flagOf[b]? = some flag →
    SharesFlag actions a b
  raised : ∀ {flag : Nat}, tokens.flags[flag]? = some true ↔
    ∃ token, WasCancelled actions token ∧ tokens.flagOf[token]? = some flag

theorem traces_nil : Traces [] .empty where
  length := rfl
  bound := nofun
  same := nofun
  shares := nofun
  raised := by
    intro flag
    refine iff_of_false nofun ?_
    rintro ⟨token, _, h⟩
    cases h

namespace Traces

variable {tokens : CancelTokens} {flag : Nat} (h : Traces actions tokens)
include h

/-- A token that is added comes after all that were cancelled. -/
theorem exists_flagOf_concat_iff (hcancel : ∀ token, action ≠ .cancel token) :
    (∃ token, WasCancelled (actions ++ [action]) token ∧
      (tokens.flagOf ++ [flag])[token]? = some b) ↔
      ∃ token, WasCancelled actions token ∧ tokens.flagOf[token]? = some b := by
  refine exists_congr fun token => ?_
  rw [wasCancelled_concat, or_iff_left fun hnew => hcancel token hnew.1]
  refine and_congr_right fun hold => ?_
  rw [List.getElem?_append_left (h.length ▸ hold.lt)]

theorem fresh : Traces (actions ++ [.fresh]) tokens.fresh where
  length := by
    rw [origins_concat]
    simp [CancelTokens.fresh, addOrigin, h.length]
  bound hflag := by
    rw [CancelTokens.fresh, List.length_append]
    rcases getElem?_concat_eq_some_iff.mp hflag with hold | ⟨_, rfl⟩
    · exact Nat.lt_add_right 1 (h.bound hold)
    · exact Nat.lt_succ_self _
  same hclone := by
    rw [IsClone, origins_concat] at hclone
    rcases getElem?_concat_eq_some_iff.mp hclone with hold | ⟨_, hnone⟩
    · obtain ⟨flag, ha, hb⟩ := h.same hold
      exact ⟨flag, getElem?_concat_eq_some_iff.mpr (.inl ha),
        getElem?_concat_eq_some_iff.mpr (.inl hb)⟩
    · cases hnone
  shares ha hb := by
    rcases getElem?_concat_eq_some_iff.mp ha with ha | ⟨rfl, rfl⟩
    · rcases getElem?_concat_eq_some_iff.mp hb with hb | ⟨_, rfl⟩
      · exact (h.shares ha hb).concat _
      · exact absurd (h.bound ha) (Nat.lt_irrefl _)
    · rcases getElem?_concat_eq_some_iff.mp hb with hb | ⟨rfl, _⟩
      · exact absurd (h.bound hb) (Nat.lt_irrefl _)
      · exact .refl _
  raised := by
    intro flag
    have hflags : tokens.fresh.flags[flag]? = some true ↔ tokens.flags[flag]? = some true := by
      refine getElem?_concat_eq_some_iff.trans (or_iff_left ?_)
      rintro ⟨_, hfalse⟩
      cases hfalse
    rw [hflags, h.raised]
    have hcancel : ∀ token, Action.fresh ≠ .cancel token := nofun
    exact (h.exists_flagOf_concat_iff hcancel).symm

/-- An action without an effect. -/
theorem skip (horigins : addOrigin (origins actions) action = origins actions)
    (hcancel : ∀ token, action = .cancel token → ¬ token < (origins actions).length) :
    Traces (actions ++ [action]) tokens where
  length := by rw [origins_concat, horigins, h.length]
  bound := h.bound
  same hclone := by
    rw [IsClone, origins_concat, horigins] at hclone
    exact h.same hclone
  shares ha hb := (h.shares ha hb).concat action
  raised := by
    intro flag
    rw [h.raised]
    refine exists_congr fun token => and_congr_left fun _ => ?_
    rw [wasCancelled_concat, or_iff_left fun hnew => hcancel token hnew.1 hnew.2]

theorem lt_iff {token : Nat} : token < (origins actions).length ↔
    ∃ flag, tokens.flagOf[token]? = some flag := by
  rw [← h.length]
  constructor
  · exact fun hlt => ⟨_, List.getElem?_eq_getElem hlt⟩
  · rintro ⟨flag, hflag⟩
    exact (List.getElem?_eq_some_iff.mp hflag).1

theorem clone (token : Nat) : Traces (actions ++ [.clone token]) (tokens.clone token) := by
  cases htoken : tokens.flagOf[token]? with
  | none =>
    have hgone : ¬ token < (origins actions).length := by simp [h.lt_iff, htoken]
    rw [CancelTokens.clone, htoken]
    exact h.skip (if_neg hgone) fun _ heq => nomatch heq
  | some flag =>
    have hlt : token < (origins actions).length := h.lt_iff.mpr ⟨flag, htoken⟩
    have horigins : origins (actions ++ [.clone token]) = origins actions ++ [some token] := by
      rw [origins_concat, addOrigin, if_pos hlt]
    have hnew : IsClone (actions ++ [.clone token]) tokens.flagOf.length token := by
      rw [IsClone, horigins, h.length]
      exact getElem?_concat_eq_some_iff.mpr (.inr ⟨rfl, rfl⟩)
    rw [CancelTokens.clone, htoken]
    refine ⟨?_, ?_, ?_, ?_, ?_⟩
    · rw [horigins, List.length_append, List.length_append, h.length]
      rfl
    · intro other flag hflag
      rcases getElem?_concat_eq_some_iff.mp hflag with hold | ⟨_, rfl⟩
      · exact h.bound hold
      · exact h.bound htoken
    · intro a b hclone
      rw [IsClone, horigins] at hclone
      rcases getElem?_concat_eq_some_iff.mp hclone with hold | ⟨rfl, hb⟩
      · obtain ⟨flag, ha, hb⟩ := h.same hold
        exact ⟨flag, getElem?_concat_eq_some_iff.mpr (.inl ha),
          getElem?_concat_eq_some_iff.mpr (.inl hb)⟩
      · cases hb
        exact ⟨flag, getElem?_concat_eq_some_iff.mpr (.inr ⟨h.length.symm, rfl⟩),
          getElem?_concat_eq_some_iff.mpr (.inl htoken)⟩
    · intro a b shared ha hb
      have hold : ∀ {other}, tokens.flagOf[other]? = some flag →
          SharesFlag (actions ++ [.clone token]) tokens.flagOf.length other := by
        intro other hother
        exact .trans _ _ _ (.rel _ _ hnew) ((h.shares htoken hother).concat _)
      rcases getElem?_concat_eq_some_iff.mp ha with ha | ⟨rfl, rfl⟩
      · rcases getElem?_concat_eq_some_iff.mp hb with hb | ⟨rfl, rfl⟩
        · exact (h.shares ha hb).concat _
        · exact .symm _ _ (hold ha)
      · rcases getElem?_concat_eq_some_iff.mp hb with hb | ⟨rfl, _⟩
        · exact hold hb
        · exact .refl _
    · intro flag
      rw [h.raised]
      have hcancel : ∀ other, Action.clone token ≠ .cancel other := nofun
      exact (h.exists_flagOf_concat_iff hcancel).symm

theorem cancel (token : Nat) : Traces (actions ++ [.cancel token]) (tokens.cancel token) := by
  have horigins : origins (actions ++ [.cancel token]) = origins actions := origins_concat _ _
  cases htoken : tokens.flagOf[token]? with
  | none =>
    have hgone : ¬ token < (origins actions).length := by simp [h.lt_iff, htoken]
    rw [CancelTokens.cancel, htoken]
    refine h.skip rfl fun other hother => ?_
    cases hother
    exact hgone
  | some flag =>
    have hlt : token < (origins actions).length := h.lt_iff.mpr ⟨flag, htoken⟩
    rw [CancelTokens.cancel, htoken]
    refine ⟨?_, ?_, ?_, ?_, ?_⟩
    · rw [horigins, h.length]
    · intro other flag hflag
      rw [List.length_set]
      exact h.bound hflag
    · intro a b hclone
      rw [IsClone, horigins] at hclone
      exact h.same hclone
    · exact fun ha hb => (h.shares ha hb).concat _
    · intro other
      by_cases hother : other = flag
      · subst hother
        refine iff_of_true ?_ ⟨token, wasCancelled_concat.mpr (.inr ⟨rfl, hlt⟩), htoken⟩
        exact List.getElem?_set_self (h.bound htoken)
      · rw [List.getElem?_set_ne (Ne.symm hother), h.raised]
        refine exists_congr fun cancelled => and_congr_left fun hflag => ?_
        refine (or_iff_left ?_).symm.trans wasCancelled_concat.symm
        rintro ⟨heq, _⟩
        cases heq
        exact hother (Option.some.inj (hflag.symm.trans htoken))

end Traces

theorem traces_after (actions : List Action) : Traces actions (.after actions) := by
  induction actions using List.reverseRecOn with
  | nil => exact traces_nil
  | append_singleton actions action ih =>
    rw [after_concat]
    cases action with
    | fresh => exact ih.fresh
    | clone token => exact ih.clone token
    | cancel token => exact ih.cancel token

theorem SharesFlag.flagOf_eq (h : SharesFlag actions a b) :
    (CancelTokens.after actions).flagOf[a]? = (CancelTokens.after actions).flagOf[b]? := by
  induction h with
  | rel a b hclone =>
    obtain ⟨flag, ha, hb⟩ := (traces_after actions).same hclone
    rw [ha, hb]
  | refl => rfl
  | symm _ _ _ ih => exact ih.symm
  | trans _ _ _ _ _ ih₁ ih₂ => exact ih₁.trans ih₂

/-- A token sees the cancels on tokens that share its flag, and no others. -/
theorem isCancelled_after_iff : (CancelTokens.after actions).isCancelled token ↔
    ∃ cancelled, WasCancelled actions cancelled ∧ SharesFlag actions cancelled token := by
  have htraces := traces_after actions
  have hseen : (CancelTokens.after actions).isCancelled token ↔
      ∃ flag, (CancelTokens.after actions).flagOf[token]? = some flag ∧
        (CancelTokens.after actions).flags[flag]? = some true := by
    rw [CancelTokens.isCancelled]
    cases (CancelTokens.after actions).flagOf[token]? with
    | none => simp
    | some flag =>
      cases hflag : (CancelTokens.after actions).flags[flag]? <;> simp [hflag]
  rw [hseen]
  constructor
  · rintro ⟨flag, htoken, hflag⟩
    obtain ⟨cancelled, hcancelled, hshared⟩ := htraces.raised.mp hflag
    exact ⟨cancelled, hcancelled, htraces.shares hshared htoken⟩
  · rintro ⟨cancelled, hcancelled, hshared⟩
    obtain ⟨flag, hflag⟩ := htraces.lt_iff.mp hcancelled.lt
    exact ⟨flag, hshared.flagOf_eq ▸ hflag, htraces.raised.mpr ⟨cancelled, hcancelled, hflag⟩⟩

section Filter

variable {keep : Action → Bool}

/-- Cancels make no tokens. -/
theorem origins_filter
    (h : ∀ action ∈ actions, keep action = false → ∃ token, action = .cancel token) :
    origins (actions.filter keep) = origins actions := by
  induction actions using List.reverseRecOn with
  | nil => rfl
  | append_singleton actions action ih =>
    have ih := ih fun other hother => h other (List.mem_append_left _ hother)
    rw [List.filter_append, origins_concat, ← ih]
    cases hkeep : keep action with
    | true => rw [List.filter_singleton, hkeep, cond_true, origins_concat]
    | false =>
      obtain ⟨token, rfl⟩ := h action (List.mem_append_right _ List.mem_cons_self) hkeep
      rw [List.filter_singleton, hkeep, cond_false, List.append_nil]
      rfl

theorem sharesFlag_filter
    (h : ∀ action ∈ actions, keep action = false → ∃ token, action = .cancel token) :
    SharesFlag (actions.filter keep) = SharesFlag actions := by
  have hclone : IsClone (actions.filter keep) = IsClone actions := by
    funext a b
    rw [IsClone, IsClone, origins_filter h]
  rw [SharesFlag, SharesFlag, hclone]

theorem wasCancelled_filter
    (h : ∀ action ∈ actions, keep action = false → ∃ token, action = .cancel token)
    (hkept : keep (.cancel token)) :
    WasCancelled (actions.filter keep) token ↔ WasCancelled actions token := by
  induction actions using List.reverseRecOn with
  | nil => rfl
  | append_singleton actions action ih =>
    have h : ∀ action ∈ actions, keep action = false → ∃ token, action = .cancel token :=
      fun other hother => h other (List.mem_append_left _ hother)
    rw [List.filter_append, wasCancelled_concat, ← ih h]
    cases hkeep : keep action with
    | true => rw [List.filter_singleton, hkeep, cond_true, wasCancelled_concat, origins_filter h]
    | false =>
      rw [List.filter_singleton, hkeep, cond_false, List.append_nil]
      refine (or_iff_left ?_).symm
      rintro ⟨rfl, _⟩
      rw [hkept] at hkeep
      cases hkeep

/-- Without cancels on tokens of other flags a token sees the same. -/
theorem isCancelled_filter (h : ∀ action ∈ actions, keep action = false →
      ∃ other, action = .cancel other ∧ ¬ SharesFlag actions other token) :
    (CancelTokens.after (actions.filter keep)).isCancelled token =
      (CancelTokens.after actions).isCancelled token := by
  have hcancels : ∀ action ∈ actions, keep action = false → ∃ other, action = .cancel other := by
    intro action hmem hdropped
    obtain ⟨other, hother, _⟩ := h action hmem hdropped
    exact ⟨other, hother⟩
  rw [Bool.eq_iff_iff, isCancelled_after_iff, isCancelled_after_iff, sharesFlag_filter hcancels]
  refine exists_congr fun other => and_congr_left fun hshares => ?_
  cases hkeep : keep (.cancel other) with
  | true => exact wasCancelled_filter hcancels hkeep
  | false =>
    -- Such a cancel is not among the actions at all.
    have habsent : Action.cancel other ∉ actions := by
      intro hmem
      obtain ⟨same, heq, hnot⟩ := h _ hmem hkeep
      cases heq
      exact hnot hshares
    refine iff_of_false ?_ ?_
    · rintro ⟨before, after, hactions, _⟩
      have hmem : Action.cancel other ∈ actions.filter keep := by simp [hactions]
      exact habsent (List.mem_filter.mp hmem).1
    · rintro ⟨before, after, rfl, _⟩
      exact habsent (by simp)

end Filter

end TypedQuery.Build
