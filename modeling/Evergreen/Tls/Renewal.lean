import Evergreen.Tls.Shim

namespace Evergreen.Tls

/-! # Renewing in time

A certificate has a true expiry, whatever the shim makes of it.
-/

/-- The certificate expires in less than the time to renew before. -/
def ExpiresSoon (expiry : String → Int) (shim : TlsShim) (certPem : String) (now : Int) : Prop :=
  expiry certPem - now < shim.renewBeforeSecs * secNanos

instance (expiry : String → Int) (shim : TlsShim) (certPem : String) (now : Int) :
    Decidable (ExpiresSoon expiry shim certPem now) := inferInstanceAs (Decidable (_ < _))

/-- Wherever the certificate in use expires soon, a renewal is attempted. -/
def RenewsInTime (expiry : String → Int) (shim : TlsShim) (session : Session) : Prop :=
  ∀ point ∈ session.points, ∀ certPem, point.certificate = some certPem →
    ExpiresSoon expiry shim certPem point.now → point.attempted = true

/-- A certificate that a start finds has time left, or the days counted from a
year's validity are too few all the same; at a tick the certificate in use has
time left. -/
def TimeLeft (expiry : String → Int) (shim : TlsShim) (session : Session) : Label → Prop
  | .start disk load _ _ => ∀ certPem, Session.found shim disk = some certPem →
      ¬ ExpiresSoon expiry shim certPem load.days ∨
        daysUntilExpiry certPem load < renewBeforeDays shim.renewBeforeSecs
  | .tick now => ∀ certPem, session.inUse shim = some certPem →
      ¬ ExpiresSoon expiry shim certPem now
  | .shutdown => True

variable {expiry : String → Int} {crates : Crates} {shim : TlsShim} {session : Session}

/-! ## Where a renewal is attempted -/

theorem TlsShim.needsRenewal_iff {cert : CertInfo} :
    shim.needsRenewal cert = true ↔
      cert.daysUntilExpiry < renewBeforeDays shim.renewBeforeSecs :=
  decide_eq_true_iff

theorem Session.prepare_renewals {disk : Disk} {load renew : Readings}
    {provided : Except String (String × String)} {certPem : String}
    (found : Session.found shim disk = some certPem) :
    session.renewals < (session.prepare crates shim disk load provided renew).renewals ↔
      daysUntilExpiry certPem load < renewBeforeDays shim.renewBeforeSecs := by
  unfold Session.found at found
  split at found
  · cases found
  · next usable =>
      rw [not_or, not_or] at usable
      obtain ⟨named, exists', keyed⟩ := usable
      obtain ⟨keyPem, key⟩ := Option.ne_none_iff_exists'.mp keyed
      have loaded : shim.loadCertFromDisk crates disk load =
          some (shim.describe crates "loaded from disk" certPem keyPem load) := by
        rw [TlsShim.loadCertFromDisk, if_pos (by simpa using exists'), found, key]
        rfl
      unfold Session.prepare
      rw [if_neg named, loaded]
      dsimp only
      by_cases few : daysUntilExpiry certPem load < renewBeforeDays shim.renewBeforeSecs
      · rw [if_pos (TlsShim.needsRenewal_iff.mpr few)]
        exact ⟨fun _ => few, fun _ => Nat.lt_succ_self _⟩
      · rw [if_neg (mt TlsShim.needsRenewal_iff.mp few)]
        exact ⟨fun grown => absurd grown (lt_irrefl _), fun counted => absurd counted few⟩

/-! ## Runs -/

theorem renewsInTime_witness {after : Session} {now : Int} {certificate : Option String}
    (inTime : RenewsInTime expiry shim session) :
    RenewsInTime expiry shim (session.witness after now certificate) ↔
      ∀ certPem, certificate = some certPem → ExpiresSoon expiry shim certPem now →
        session.renewals < after.renewals := by
  constructor
  · intro all certPem same soon
    exact of_decide_eq_true
      (all _ (List.mem_append_right _ List.mem_cons_self) certPem same soon)
  · intro attempted point member certPem same soon
    rcases List.mem_append.mp member with earlier | last
    · exact inTime point earlier certPem same soon
    · rw [List.mem_singleton.mp last] at same soon ⊢
      exact decide_eq_true (attempted certPem same soon)

/-- A step out of a run that has renewed in time does so too exactly when there
is time left. -/
theorem renewsInTime_step {label : Label} {next : Session}
    (inTime : RenewsInTime expiry shim session)
    (taken : (machine crates shim).step session label = some next) :
    RenewsInTime expiry shim next ↔ TimeLeft expiry shim session label := by
  cases label with
  | start disk load provided renew =>
      simp only [machine] at taken
      split at taken
      · cases taken
        rw [renewsInTime_witness inTime]
        refine forall_congr' fun certPem => forall_congr' fun found => ?_
        rw [← @Session.prepare_renewals crates shim session disk load renew provided certPem found]
        exact imp_iff_not_or
      · cases taken
  | tick now =>
      simp only [machine] at taken
      split at taken
      · cases taken
        rw [renewsInTime_witness inTime]
        refine forall_congr' fun certPem => forall_congr' fun used => ?_
        -- the loop only reports: its turn leaves the count of renewals as it is
        exact ⟨fun attempted soon => lt_irrefl _ (attempted soon),
          fun left soon => absurd soon left⟩
      · cases taken
  | shutdown =>
      simp only [machine] at taken
      split at taken
      · cases taken
        exact ⟨fun _ => trivial, fun _ => inTime⟩
      · cases taken

def plainCrates : Crates where
  toRfc3339 instant := toString instant
  computeFingerprint certPem := certPem
  extractSerial certPem := certPem

end Evergreen.Tls
