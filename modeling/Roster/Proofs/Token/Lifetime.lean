import Roster.Proofs.Token.Issued
import Mathlib.Tactic

/-!
# The lifetime of a token

A token is checked by signers that share the secret and the algorithm of the one that issued it.
Such a signer accepts the token from the second of issue that it names until just before the second
of expiry, and gives back the name and the text that went in.  Before and after, and whenever the
two signers have different issuers, the token is refused.  The token names whole seconds, so its
lifetime begins and ends up to a second before the clock would have it.
-/

namespace Roster

/-- The outcome is reported as a failed authentication with the message. -/
def CheckError.Rejects
    (outcome : Except CheckError AcceptedToken) (message : LooseText) : Prop :=
  ∃ error, outcome = .error error ∧ error.rejection? = some message

namespace Signer

open CheckError

variable {signer : Signer} {username token issuer : String} {issued now : Moment} {hours : Int}
  {variant : MacVariant} {key : Bytes}

def InCalendar (moment : Moment) : Prop :=
  firstMoment.micros ≤ moment.micros ∧ moment.micros < endOfCalendar.micros

instance (moment : Moment) : Decidable (InCalendar moment) :=
  inferInstanceAs (Decidable (_ ∧ _))

/-- Between two moments of the calendar no lifetime is too long for a span of time. -/
theorem expiry_of_inCalendar
    (hissued : InCalendar issued) (hdeadline : InCalendar (signer.deadline issued)) :
    signer.expiry issued = .ok (signer.deadline issued) := by
  unfold InCalendar at *
  simp only [deadline, firstMoment, endOfCalendar, Moment.micros_later, Moment.micros_ofSeconds,
    Moment.microsPerSecond] at hissued hdeadline
  have hlarge : ¬ (signer.lifetimeHours / 24 < -2147483648 ∨
      2147483648 ≤ signer.lifetimeHours / 24) := by
    omega
  have hlong : ¬ (signer.lifetimeHours / 24 < -999999999 ∨
      999999999 < signer.lifetimeHours / 24) := by
    omega
  have hcalendar : ¬ ((signer.deadline issued).micros < firstMoment.micros ∨
      endOfCalendar.micros ≤ (signer.deadline issued).micros) := by
    simp only [deadline, firstMoment, endOfCalendar, Moment.micros_later, Moment.micros_ofSeconds,
      Moment.microsPerSecond]
    omega
  unfold expiry
  simp only [if_neg hlarge, if_neg hlong, if_neg hcalendar]

section Issued

variable (halgorithm : Algorithm.ofName signer.algorithm = .mac variant)
  (hname : username ≠ "") (hissue : signer.issue username issued = .ok token)

include halgorithm hname hissue

theorem check_alive (hstart : issued.written ≤ now.second)
    (hend : now.second < (signer.deadline issued).written) :
    (signer.peer signer.issuer hours).check token now =
      .ok { username := LooseText.ofString username, token } := by
  simp [check_issued_peer signer.issuer hours now halgorithm hname hissue, not_lt.mpr hstart,
    not_le.mpr hend]

theorem check_expired (hstart : issued.written ≤ now.second)
    (hend : (signer.deadline issued).written ≤ now.second) :
    Rejects ((signer.peer signer.issuer hours).check token now) "token expired" := by
  refine ⟨.expired, ?_, rfl⟩
  simp [check_issued_peer signer.issuer hours now halgorithm hname hissue, not_lt.mpr hstart, hend]

theorem check_early (hearly : now.second < issued.written) :
    Rejects ((signer.peer issuer hours).check token now)
      "invalid token, The token is not yet valid (iat)" := by
  refine ⟨.invalid (.notYetValid .issuedAt), ?_, rfl⟩
  simp [check_issued_peer issuer hours now halgorithm hname hissue, hearly, invalid]

theorem check_foreign (hissuer : issuer ≠ signer.issuer) (accepted : AcceptedToken) :
    (signer.peer issuer hours).check token now ≠ .ok accepted := by
  rw [check_issued_peer issuer hours now halgorithm hname hissue, if_neg hissuer.symm]
  intro haccepted
  split_ifs at haccepted
  all_goals cases haccepted

end Issued

/-! ## Seconds of the clock -/

/-- Rounding does not change the second: it is a whole one, or one from 1970 to 2514. -/
def KeepsSecond (moment : Moment) : Prop :=
  InCalendar moment ∧ moment.micros % 1000000 = 0 ∨ moment.IsOrdinary

theorem KeepsSecond.eq {moment : Moment} (hkeeps : KeepsSecond moment) :
    moment.second = moment.micros / 1000000 ∧ moment.written = moment.micros / 1000000 := by
  rcases hkeeps with ⟨hcalendar, hwhole⟩ | hordinary
  · have hmoment : moment = .ofSeconds (moment.micros / 1000000) := by
      obtain ⟨micros⟩ := moment
      simp only [Moment.ofSeconds, Moment.microsPerSecond] at hwhole ⊢
      congr 1
      omega
    have hshort : (moment.micros / 1000000).natAbs < 2 ^ 53 := by
      unfold InCalendar at hcalendar
      simp only [firstMoment, endOfCalendar, Moment.micros_ofSeconds, Moment.microsPerSecond]
        at hcalendar
      omega
    have hseconds := Moment.second_ofSeconds hshort
    rwa [← hmoment] at hseconds
  · exact ⟨hordinary.second_eq, hordinary.written_eq⟩

theorem seconds_deadline (signer : Signer) (issued : Moment) :
    (signer.deadline issued).micros / 1000000 =
      issued.micros / 1000000 + 3600 * signer.lifetimeHours := by
  simp only [deadline, Moment.micros_later, Moment.microsPerSecond]
  omega

/-- A fresh token is accepted exactly from the second of issue that it names until before the
second of expiry, and only under its own issuer.  Wherever rounding does not change the second,
these are the seconds of the clock. -/
theorem token_accepted_exactly_while_alive
    (signer : Signer) (username : String) (issued : Moment)
    (halgorithm : Algorithm.ofName signer.algorithm = .mac variant)
    (hkey : macKey signer.secret = .ok key) (hname : username ≠ "")
    (hissued : InCalendar issued) (hdeadline : InCalendar (signer.deadline issued)) :
    ∃ token, signer.issue username issued = .ok token ∧
      ∀ now hours,
        (issued.written ≤ now.second → now.second < (signer.deadline issued).written →
          (signer.peer signer.issuer hours).check token now =
            .ok { username := LooseText.ofString username, token }) ∧
        (issued.written ≤ now.second → (signer.deadline issued).written ≤ now.second →
          Rejects ((signer.peer signer.issuer hours).check token now) "token expired") ∧
        (now.second < issued.written → ∃ message, message ≠ "token expired" ∧
          Rejects ((signer.peer signer.issuer hours).check token now) message) ∧
        (∀ issuer ≠ signer.issuer, ∀ accepted,
          (signer.peer issuer hours).check token now ≠ .ok accepted) ∧
        (KeepsSecond issued → KeepsSecond (signer.deadline issued) → KeepsSecond now →
          issued.written = issued.micros / 1000000 ∧ now.second = now.micros / 1000000 ∧
          (signer.deadline issued).written =
            issued.micros / 1000000 + 3600 * signer.lifetimeHours) := by
  obtain ⟨token, hissue⟩ :=
    issue_total username halgorithm hkey (expiry_of_inCalendar hissued hdeadline)
  refine ⟨token, hissue, ?_⟩
  intro now hours
  refine ⟨?_, ?_, ?_, ?_, ?_⟩
  · intro hstart hend
    exact check_alive halgorithm hname hissue hstart hend
  · intro hstart hend
    exact check_expired halgorithm hname hissue hstart hend
  · intro hearly
    exact ⟨_, by decide, check_early halgorithm hname hissue hearly⟩
  · intro issuer hissuer accepted
    exact check_foreign halgorithm hname hissue hissuer accepted
  · intro hstart hend hnow
    exact ⟨hstart.eq.2, hnow.eq.1, hend.eq.2.trans (seconds_deadline signer issued)⟩

def harbour : Signer where
  secret := "secret"
  algorithm := "HS384"
  lifetimeHours := 2
  issuer := "Ålesund \"⚓\""

theorem ofName_harbour : Algorithm.ofName harbour.algorithm = .mac .hs384 := rfl

theorem macKey_harbour : macKey harbour.secret = .ok (utf8 "secret") := by
  decide +kernel

theorem token_accepted_exactly_while_alive_harbour :
    ∃ token, harbour.issue "zoë 🚢" ⟨1700000000900000⟩ = .ok token ∧
      harbour.check token ⟨1700007199999999⟩ =
        .ok { username := LooseText.ofString "zoë 🚢", token } ∧
      Rejects (harbour.check token ⟨1700007200000000⟩) "token expired" := by
  obtain ⟨token, hissue, hcheck⟩ := token_accepted_exactly_while_alive harbour "zoë 🚢"
    ⟨1700000000900000⟩ ofName_harbour macKey_harbour (by decide) (by decide) (by decide)
  exact ⟨token, hissue, (hcheck ⟨1700007199999999⟩ 2).1 (by decide +kernel) (by decide +kernel),
    (hcheck ⟨1700007200000000⟩ 2).2.1 (by decide +kernel) (by decide +kernel)⟩

/-- Issued in the middle of a second, a token is accepted half a second before its issue, and has
expired half a second before its lifetime is over. -/
theorem lifetime_moves_by_fraction :
    ∃ token, harbour.issue "zoë 🚢" ⟨1700000000900000⟩ = .ok token ∧
      harbour.check token ⟨1700000000900000 - 500000⟩ =
        .ok { username := LooseText.ofString "zoë 🚢", token } ∧
      Rejects (harbour.check token ⟨1700000000900000 + 7200 * 1000000 - 500000⟩)
        "token expired" := by
  have hexpiry : harbour.expiry ⟨1700000000900000⟩ = .ok (harbour.deadline ⟨1700000000900000⟩) :=
    expiry_of_inCalendar (by decide) (by decide)
  obtain ⟨token, hissue⟩ := issue_total "zoë 🚢" ofName_harbour macKey_harbour hexpiry
  have halive : harbour.check token ⟨1700000000900000 - 500000⟩ =
      .ok { username := LooseText.ofString "zoë 🚢", token } :=
    check_issued ofName_harbour (by decide) hissue
  have hexpired : harbour.check token ⟨1700000000900000 + 7200 * 1000000 - 500000⟩ =
      .error .expired :=
    check_issued ofName_harbour (by decide) hissue
  exact ⟨token, hissue, halive, .expired, hexpired, rfl⟩

end Signer
end Roster
