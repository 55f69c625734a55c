import DepthRelay.Proofs.OpeningStages
import DepthRelay.Proofs.SharedCamera

namespace DepthRelay

/-!
# Cameras that share a serial

A descriptor answers with serials, and a device object is made for the first camera of a serial,
behind whatever descriptor that camera is.  So an opening can get hold of a camera that is not the
one behind its descriptor.

* `Relay.OpensBehind` — an opening has kept to the cameras behind its descriptor.
* `opens_behind_iff` — when it does, in every state of a relay.
* `opening_strays` — an opening that does not.
-/

namespace Relay

variable {w w' : Relay} {d : Descriptor} {i p q : Nat} {b c : Camera Nat}

/-- The session at place `i` has opened a camera behind `d`, and the cameras that are reachable only
    through other descriptors are as they were. -/
structure OpensBehind (d : Descriptor) (i : Nat) (w w' : Relay) : Prop where
  opened : ∃ (o : OpenCamera) (c c' : Camera Nat), (w'.session i).camera = some o ∧
    w.cameras[o.device.camera]? = some c ∧ c.profile.fd = d.fd ∧ w'.cameras[o.device.camera]? = some c' ∧
    c'.initialized = true ∧ c'.listener = some o.channel ∧ c'.useCase = some o.rate.useCase ∧
    c'.exposureMode = .manual
  spared : ∀ (k : Nat) (c : Camera Nat), w.cameras[k]? = some c → c.profile.fd ≠ d.fd →
    w'.cameras[k]? = some c

/-- One camera is behind a descriptor: it has a place, and nothing else is behind the descriptor. -/
theorem place_of_behind (h : w.behind d = [b]) :
    ∃ q : Nat, w.cameras[q]? = some b ∧
      ∀ (k : Nat) (c : Camera Nat), w.cameras[k]? = some c → (c.profile.fd = d.fd ↔ k = q) := by
  obtain ⟨before, after, hcameras, hbefore, hb, hafter⟩ := List.filter_eq_cons_iff.mp h
  refine ⟨before.length, by simp [hcameras], fun k c hk => ?_⟩
  rw [hcameras] at hk
  rcases Nat.lt_trichotomy k before.length with hlt | rfl | hgt
  · rw [List.getElem?_append_left hlt] at hk
    have hc := hbefore c (List.mem_of_getElem? hk)
    simp only [beq_iff_eq] at hc
    simp [hc, Nat.ne_of_lt hlt]
  · rw [List.getElem?_append_right (Nat.le_refl _), Nat.sub_self, List.getElem?_cons_zero] at hk
    obtain rfl := Option.some.inj hk
    simpa using hb
  · obtain ⟨n, hn⟩ := Nat.exists_eq_add_of_lt hgt
    have hk' : after[n]? = some c := by
      rw [List.getElem?_append_right (Nat.le_of_lt hgt)] at hk
      rwa [show k - before.length = n + 1 by omega, List.getElem?_cons_succ] at hk
    have hc := List.filter_eq_nil_iff.mp hafter c (List.mem_of_getElem? hk')
    simp only [beq_iff_eq] at hc
    simp [hc, Nat.ne_of_gt hgt]

/-- The camera that an opening goes for is the first one with the serial of the one behind the
    descriptor. -/
theorem behind_of_target? (h : w.target? d = some p) :
    ∃ b, w.behind d = [b] ∧ place? w.cameras b.profile.serial = some p := by
  unfold target? at h
  rw [connected_eq] at h
  rcases hbehind : w.behind d with _ | ⟨b, _ | ⟨b', rest⟩⟩
  · rw [hbehind] at h
    exact absurd h (by simp)
  · rw [hbehind] at h
    exact ⟨b, rfl, h⟩
  · rw [hbehind] at h
    exact absurd h (by simp)

/-- The first camera with a serial. -/
theorem place?_eq_some {serial : String} (h : place? w.cameras serial = some p) :
    (∃ c, w.cameras[p]? = some c ∧ c.profile.serial = serial) ∧
      ∀ k c, w.cameras[k]? = some c → c.profile.serial = serial → p ≤ k := by
  obtain ⟨hp, hserial, hfirst⟩ := List.findIdx?_eq_some_iff_getElem.mp h
  refine ⟨⟨_, List.getElem?_eq_getElem hp, by simpa using hserial⟩, fun k c hk hc => ?_⟩
  obtain ⟨hlt, rfl⟩ := List.getElem?_eq_some_iff.mp hk
  exact Nat.le_of_not_lt fun hkp => hfirst k hkp (by simpa using hc)

end Relay

/-- **Openings and descriptors.**  An opening that works configures one camera and leaves all others
    as they were.  One camera `b` is behind the descriptor, and the camera that is opened is the
    first one with the same serial.  So the opening keeps to the cameras behind its descriptor if
    and only if no camera before `b` has the serial of `b`. -/
theorem opens_behind_iff (w : Relay) (d : Descriptor) (key : UInt32) (address i : Nat)
    (hi : i < w.sessions.length) (hok : (w.openSession d key address i).1 = .ok ()) :
    ∃ (p q : Nat) (c b : Camera Nat) (rate : FrameRate), FrameRate.ofKey? key = some rate ∧
      w.cameras[p]? = some c ∧ w.cameras[q]? = some b ∧ p ≤ q ∧
      c.profile.serial = b.profile.serial ∧
      (∀ (k : Nat) (c' : Camera Nat), w.cameras[k]? = some c' → (c'.profile.fd = d.fd ↔ k = q)) ∧
      (w.openSession d key address i).2.cameras =
        w.cameras.set p (Session.prepared rate w.channels.length c) ∧
      (w.OpensBehind d i (w.openSession d key address i).2 ↔
        ∀ k < q, ∀ c', w.cameras[k]? = some c' → c'.profile.serial ≠ b.profile.serial) := by
  have hcases := Relay.openSession_cases d key address i w
  rw [hok] at hcases
  generalize (w.openSession d key address i).2 = w' at hcases ⊢
  -- An opening that succeeds is the one case, and it tells the camera that was chosen.
  cases hcases with
  | done p c rate buffer r target found closed idle rated room exposed =>
    obtain ⟨b, hbehind, hplace⟩ := Relay.behind_of_target? target
    obtain ⟨q, hq, hunique⟩ := Relay.place_of_behind hbehind
    obtain ⟨⟨c', hc', hserial⟩, hfirst⟩ := Relay.place?_eq_some hplace
    obtain rfl := Option.some.inj (found.symm.trans hc')
    have hpq : p ≤ q := hfirst q b hq rfl
    refine ⟨p, q, c, b, rate, rated, found, hq, hpq, hserial, hunique, rfl, ?_⟩
    have hopened : ((w.opened i p c rate buffer r).session i).camera =
        some { device := { camera := p }, channel := w.channels.length,
               serial := c.profile.serial, rate := rate } := by
      simp [Relay.session, Relay.opened, Relay.update, List.getD_eq_getElem?_getD, hi]
    constructor
    · -- If a camera before had that serial, the chosen one would not be that of the descriptor.
      rintro ⟨⟨o, a, -, ho, ha, hfd, -⟩, -⟩ k hk e he hsame
      obtain rfl := Option.some.inj (hopened.symm.trans ho)
      have hp : p = q := (hunique p a ha).mp hfd
      exact absurd (hfirst k e he hsame) (by omega)
    · -- If none had, the first of that serial is the one behind the descriptor.
      intro hnone
      have hp : p = q := by
        refine Nat.le_antisymm hpq (Nat.le_of_not_lt fun hlt => ?_)
        exact hnone p hlt c found hserial
      refine ⟨⟨_, c, Session.prepared rate w.channels.length c, hopened, found,
        (hunique p c found).mpr hp, getElem?_set_of_some found, rfl, rfl, rfl, rfl⟩, ?_⟩
      intro k a ha hfd
      have hk : p ≠ k := fun hk => hfd ((hunique k a ha).mpr (hk.symm.trans hp))
      exact (List.getElem?_set_ne hk).trans ha

/-- The camera behind the descriptor is the first one with its serial, and is opened. -/
theorem opens_behind_iff_first :
    let w := (World.fresh [{ serial := "A", fd := 3 }, { serial := "A", fd := 4 }] 1
      [(0, { maxPoints := 4 })] () 0).relay
    w.OpensBehind ⟨3⟩ 0 (w.openSession ⟨3⟩ 5 64 0).2 := by
  intro w
  obtain ⟨p, q, c, b, rate, -, -, -, -, -, hunique, -, hiff⟩ :=
    opens_behind_iff w ⟨3⟩ 5 64 0 (by decide) (by decide)
  have hq : 0 = q := (hunique 0 _ rfl).mp rfl
  subst hq
  exact hiff.mpr fun k hk => absurd hk (Nat.not_lt_zero k)

/-- Behind the descriptor 3 there is the second of two cameras with the same serial, and the first
    one is opened, which is behind the descriptor 4. -/
theorem opening_strays :
    let w := (World.fresh [{ serial := "A", fd := 4 }, { serial := "A", fd := 3 }] 1
      [(0, { maxPoints := 4 })] () 0).relay
    let w' := (w.openSession ⟨3⟩ 5 64 0).2
    (w.openSession ⟨3⟩ 5 64 0).1 = .ok () ∧ ¬w.OpensBehind ⟨3⟩ 0 w' ∧
      (w.cameras[0]?).map (·.profile.fd) = some 4 ∧ w.usage? 0 = some (false, false, none) ∧
      w'.usage? 0 = some (true, false, some 0) ∧ w'.usage? 1 = some (false, false, none) := by
  intro w w'
  have hok : (w.openSession ⟨3⟩ 5 64 0).1 = .ok () := by decide
  have hfd : (w.cameras[0]?).map (·.profile.fd) = some 4 := by decide
  have hbefore : w.usage? 0 = some (false, false, none) := by decide
  have hafter : w'.usage? 0 = some (true, false, some 0) := by decide
  refine ⟨hok, fun hbehind => ?_, hfd, hbefore, hafter, by decide⟩
  -- The camera behind the other descriptor has been touched.
  have hspared := hbehind.spared 0 _ rfl (by decide)
  have hsame : w'.usage? 0 = w.usage? 0 := by
    unfold Relay.usage?
    rw [hspared]
    rfl
  rw [hbefore, hafter] at hsame
  exact absurd hsame (by decide)

end DepthRelay
