import HandControl.EnrolledClients
import HandControl.KeyedTable

/-!
# Enrollment tokens

One-time tokens for enrolling by QR code. Clock readings are inputs; the clean-up, which reads the
clock again for every token, is given a single one.
-/

namespace HandControl.EnrollmentTokens

open KeyedTable EnrolledClients

structure EnrollmentToken where
  token : String
  createdAt : Time
  expiresAt : Time
  used : Bool
  deriving DecidableEq

namespace EnrollmentToken

def fresh (range : TimeRange) (text : String) (ttlSeconds : UInt64) (now : Time) :
    Option EnrollmentToken :=
  (range.checkedAdd now (asI64 ttlSeconds)).map fun expiresAt =>
    { token := text, createdAt := now, expiresAt := expiresAt, used := false }

def isExpired (token : EnrollmentToken) (now : Time) : Bool := decide (now > token.expiresAt)

end EnrollmentToken

structure EnrollmentTokenManager where
  tokens : Table String EnrollmentToken
  ttlSeconds : UInt64

namespace EnrollmentTokenManager

/-- `created` is the reading for the new token and `cleaned` that of the clean-up. The new token
panics before the manager is locked, if it does. -/
def generateToken (range : TimeRange) (manager : EnrollmentTokenManager) (text : String)
    (created cleaned : Time) : Option (EnrollmentTokenManager × EnrollmentToken) :=
  (EnrollmentToken.fresh range text manager.ttlSeconds created).map fun token =>
    let tokens := Table.retain (fun entry => !entry.isExpired cleaned)
      (manager.tokens.insert text token)
    ({ manager with tokens := tokens }, token)

def validateAndConsume (manager : EnrollmentTokenManager) (text : String) (now : Time) :
    EnrollmentTokenManager × Except String Unit :=
  match manager.tokens.lookup text with
  | none => (manager, .error "Invalid enrollment token")
  | some token =>
    if token.used then (manager, .error "Enrollment token already used")
    else if token.isExpired now then
      ({ manager with tokens := manager.tokens.erase text }, .error "Enrollment token expired")
    else
      ({ manager with tokens := manager.tokens.insert text { token with used := true } }, .ok ())

def NoneOutstanding (manager : EnrollmentTokenManager) (now : Time) : Prop :=
  ∀ text token, manager.tokens.lookup text = some token →
    token.used = true ∨ token.isExpired now = true

theorem NoneOutstanding.later {manager : EnrollmentTokenManager} {now later : Time}
    (none : manager.NoneOutstanding now) (ordered : now ≤ later) :
    manager.NoneOutstanding later := by
  intro text token stored
  rcases none text token stored with used | expired
  · exact Or.inl used
  · apply Or.inr
    simp only [EnrollmentToken.isExpired, decide_eq_true_eq] at expired ⊢
    exact lt_of_lt_of_le expired ordered

theorem NoneOutstanding.validateAndConsume {manager : EnrollmentTokenManager} {now : Time}
    (none : manager.NoneOutstanding now) (text : String) :
    (∃ message, (manager.validateAndConsume text now).2 = .error message) ∧
      (manager.validateAndConsume text now).1.NoneOutstanding now := by
  unfold EnrollmentTokenManager.validateAndConsume
  cases stored : manager.tokens.lookup text with
  | none => exact ⟨⟨_, rfl⟩, none⟩
  | some token =>
    cases used : token.used with
    | true => exact ⟨⟨"Enrollment token already used", by simp [used]⟩, by simpa [used] using none⟩
    | false =>
      have expired : token.isExpired now = true := by
        rcases none text token stored with spent | expired
        · rw [used] at spent
          cases spent
        · exact expired
      refine ⟨⟨"Enrollment token expired", by simp [used, expired]⟩, ?_⟩
      intro other entry found
      simp only [used, expired, Bool.false_eq_true, if_false, if_true,
        Table.lookup_erase_eq] at found
      split_ifs at found
      exact none other entry found

end EnrollmentTokenManager

end HandControl.EnrollmentTokens
