import Mathlib.Data.List.Nodup
import Mathlib.Data.Int.Order.Basic
import Mathlib.Order.Basic

/-!
# Leases with fencing tokens

A row is leased for a time by a claim that brings a token of its own.
-/

variable {τ ω : Type*}

structure LeaseClaim (τ ω : Type*) where
  token : τ
  holder : ω
  expiresAt : Int
  settled : Bool

namespace LeaseClaim

def isLive (clock : Int) (claim : LeaseClaim τ ω) : Bool :=
  !claim.settled && clock < claim.expiresAt

def settle [DecidableEq τ] (token : τ) (claim : LeaseClaim τ ω) : LeaseClaim τ ω :=
  if claim.token = token then { claim with settled := true } else claim

variable [DecidableEq τ]

@[simp]
theorem settle_token (token : τ) (claim : LeaseClaim τ ω) :
    (claim.settle token).token = claim.token := by
  rw [settle]
  split <;> rfl

end LeaseClaim

structure FencedLease (claims : List (LeaseClaim τ ω)) (lease : Option (τ × Int))
    (clock : Int) : Prop where
  distinct : (claims.map LeaseClaim.token).Nodup
  current : ∀ token expiresAt, lease = some (token, expiresAt) →
    ∃ claim ∈ claims, claim.token = token ∧ claim.expiresAt = expiresAt ∧ claim.settled = false
  superseded : ∀ claim ∈ claims, claim.settled = false →
    lease = some (claim.token, claim.expiresAt) ∨ claim.expiresAt ≤ clock

namespace FencedLease

variable {claims : List (LeaseClaim τ ω)} {lease : Option (τ × Int)} {clock now : Int}

theorem unclaimed : FencedLease ([] : List (LeaseClaim τ ω)) none clock where
  distinct := List.nodup_nil
  current := by simp
  superseded := by simp

theorem wait (fenced : FencedLease claims lease clock) (later : clock ≤ now) :
    FencedLease claims lease now where
  __ := fenced
  superseded := by
    intro claim mem open_
    rcases fenced.superseded claim mem open_ with held | elapsed
    · exact Or.inl held
    · exact Or.inr (elapsed.trans later)

theorem claim (fenced : FencedLease claims lease clock) {token : τ} {holder : ω}
    {expiresAt : Int} (fresh : ∀ earlier ∈ claims, earlier.token ≠ token)
    (elapsed : ∀ token expiresAt, lease = some (token, expiresAt) → expiresAt ≤ clock) :
    FencedLease (claims ++ [⟨token, holder, expiresAt, false⟩])
      (some (token, expiresAt)) clock where
  distinct := by
    rw [List.map_append, List.map_singleton, List.nodup_append]
    refine ⟨fenced.distinct, List.nodup_singleton token, ?_⟩
    intro used mem other isNew
    obtain ⟨earlier, earlierMember, rfl⟩ := List.mem_map.mp mem
    rw [List.mem_singleton.mp isNew]
    exact fresh earlier earlierMember
  current := by
    intro token' expiresAt' leased
    cases leased
    exact ⟨⟨token, holder, expiresAt, false⟩, by simp, rfl, rfl, rfl⟩
  superseded := by
    intro other mem open_
    rcases List.mem_append.mp mem with earlier | new
    · right
      rcases fenced.superseded other earlier open_ with held | past
      · exact elapsed _ _ held
      · exact past
    · left
      rw [List.mem_singleton.mp new]

theorem settle [DecidableEq τ] (fenced : FencedLease claims lease clock) {token : τ}
    {expiresAt : Int} (leased : lease = some (token, expiresAt)) :
    FencedLease (claims.map (LeaseClaim.settle token)) none clock where
  distinct := by
    rw [List.map_map]
    have sameTokens : LeaseClaim.token ∘ LeaseClaim.settle token =
        (LeaseClaim.token : LeaseClaim τ ω → τ) := funext (LeaseClaim.settle_token token)
    rw [sameTokens]
    exact fenced.distinct
  current := by simp
  superseded := by
    intro claim mem open_
    obtain ⟨original, originalMember, rfl⟩ := List.mem_map.mp mem
    by_cases same : original.token = token
    · simp [LeaseClaim.settle, same] at open_
    · rw [LeaseClaim.settle, if_neg same] at open_ ⊢
      rcases fenced.superseded original originalMember open_ with held | elapsed
      · rw [leased, Option.some.injEq, Prod.mk.injEq] at held
        exact absurd held.1.symm same
      · exact Or.inr elapsed

/-- At any moment at most one claim holds the row. -/
theorem live_le_one (fenced : FencedLease claims lease clock) :
    (claims.filter (LeaseClaim.isLive clock)).length ≤ 1 := by
  have sameToken : ∀ first ∈ claims.filter (LeaseClaim.isLive clock),
      lease = some (first.token, first.expiresAt) := by
    intro first mem
    rw [List.mem_filter, LeaseClaim.isLive, Bool.and_eq_true, Bool.not_eq_true',
      decide_eq_true_eq] at mem
    rcases fenced.superseded first mem.1 mem.2.1 with held | elapsed
    · exact held
    · omega
  have distinct : ((claims.filter (LeaseClaim.isLive clock)).map LeaseClaim.token).Nodup :=
    fenced.distinct.sublist (List.filter_sublist.map LeaseClaim.token)
  match live : claims.filter (LeaseClaim.isLive clock) with
  | [] => simp
  | [_] => simp
  | first :: second :: rest =>
    rw [live] at sameToken distinct
    have firstHeld := sameToken first (by simp)
    have secondHeld := sameToken second (by simp)
    rw [firstHeld, Option.some.injEq, Prod.mk.injEq] at secondHeld
    have differ : first.token ≠ second.token := by
      intro same
      simp [same] at distinct
    exact absurd secondHeld.1 differ

end FencedLease
