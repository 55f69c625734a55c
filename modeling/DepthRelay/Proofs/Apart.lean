import DepthRelay.Proofs.Outcomes

namespace DepthRelay

/-!
# Sessions with cameras of their own

Any number of sessions, on any number of hosts that they may share, as long as each camera has one
session that opens it and no two buffers lie at the same place.

* `Standing.Shows` — a session shows a buffer to its host while it holds a camera.
* `Shown` — hosts see the buffers, and the buffers of two sessions are never the same.
* `Apart` — what else is true of such sessions: cameras are held by their owners.
* `World.Settled` — a world of such sessions whose hosts are calm; `World.Settled.step` keeps it.
-/

variable {σ : Type}

namespace Standing

/-- The session at place `j` shows the buffer `v` to the host `r`. -/
def Shows (st : Standing) (j r : Nat) (v : View) : Prop :=
  ∃ t o x, st.sessions[j]? = some t ∧ t.camera = some o ∧ st.channels[o.channel]? = some x ∧
    t.runtime = r ∧ x.view = v

/-- What a session shows it has shown before, or the step has opened it. -/
theorem Shows.before {reaches : Nat → Nat → Prop} {st st' : Standing} {j r : Nat} {v : View}
    (h : st'.Shows j r v) (hcustody : Custody st) (hshift : Shift reaches st st') :
    st.Shows j r v ∨ (∃ p, reaches j p) ∧ ∃ x : Wiring, x.view = v ∧ x.session = j ∧
      st'.channels = st.channels ++ [x] ∧ st'.exposed = st.exposed.modify r (exposing v) := by
  obtain ⟨t', o, x, ht', ho, hx, rfl, rfl⟩ := h
  rcases hshift.camera_before ht' ho with ⟨t, ht, ho'⟩ | ⟨hreach, hchannel, y, hchannels, hexposed⟩
  · refine .inl ⟨t, o, x, ht, ho', ?_, ?_, rfl⟩
    · -- Channels are never rewired.
      obtain ⟨y, hy, -⟩ := hcustody.wired j t o ht ho'
      rw [hy, ← hx, hshift.channel_after hy]
    · obtain ⟨u, hu, hruntime, -⟩ := hshift.session_before ht'
      obtain rfl : t = u := Option.some.inj (ht.symm.trans hu)
      exact hruntime
  · have hyx : y = x := by
      rw [hchannels, hchannel, List.getElem?_concat_length] at hx
      exact Option.some.inj hx
    subst hyx
    -- The new channel serves the session that holds it.
    obtain ⟨z, hz, hserves⟩ := (hcustody.shift hshift).wired j t' o ht' ho
    obtain rfl : y = z := Option.some.inj (hx.symm.trans hz)
    exact .inr ⟨⟨_, hreach⟩, y, rfl, hserves.session, hchannels, hexposed⟩

end Standing

/-- Buffers are shown to hosts by one session each, and hosts see them. -/
structure Shown (st : Standing) : Prop where
  exposed : ∀ (j r : Nat) (v : View), st.Shows j r v → ∃ vs, st.exposed[r]? = some vs ∧ v ∈ vs
  distinct : ∀ (j k r r' : Nat) (v : View), st.Shows j r v → st.Shows k r' v → j = k
  hosted : ∀ (j : Nat) (t : Session), st.sessions[j]? = some t → t.runtime < st.exposed.length
  roomy : ∀ (j : Nat) (t : Session), st.sessions[j]? = some t → t.settings.maxPoints ≠ 0

/-- **Hosts go on to see the buffers** that sessions show, if a new buffer is one that nobody
    shows. -/
theorem Shown.shift {reaches : Nat → Nat → Prop} {st st' : Standing} (h : Shown st)
    (hcustody : Custody st)
    (hfresh : ∀ x : Wiring, st'.channels = st.channels ++ [x] → ∀ k r, ¬st.Shows k r x.view)
    (hshift : Shift reaches st st') : Shown st' where
  exposed := by
    intro j r v hshows
    rcases hshows.before hcustody hshift with hbefore | ⟨-, x, rfl, rfl, hchannels, hexposed⟩
    · obtain ⟨vs, hvs, hv⟩ := h.exposed j r v hbefore
      rcases hshift.exposed_cases with
        hsame | ⟨n, v', hmore⟩ | ⟨k, s, o, x, hs, ho, hx, hclosed, hless⟩
      · exact ⟨vs, hsame ▸ hvs, hv⟩
      · rw [hmore]
        rcases getElem?_modify_cases (exposing v') n hvs with hkept | hmodified
        · exact ⟨vs, hkept, hv⟩
        · exact ⟨_, hmodified, mem_exposing hv⟩
      · -- The session that has been closed showed another buffer.
        have hjk : j ≠ k := by
          rintro rfl
          obtain ⟨t', o', -, ht', ho', -⟩ := hshows
          obtain rfl := Option.some.inj (hclosed.symm.trans ht')
          exact absurd ho' (by simp [Session.closed])
        have hne : v ≠ x.view := by
          rintro rfl
          exact hjk (h.distinct j k r s.runtime x.view hbefore ⟨s, o, x, hs, ho, hx, rfl, rfl⟩)
        rw [hless]
        rcases getElem?_modify_cases (·.filter (· ≠ x.view)) s.runtime hvs with hkept | hmodified
        · exact ⟨vs, hkept, hv⟩
        · exact ⟨_, hmodified, List.mem_filter.mpr ⟨hv, by simpa using hne⟩⟩
    · obtain ⟨t', o, y, ht', ho, hy, rfl, -⟩ := hshows
      obtain ⟨t, ht, hruntime, -⟩ := hshift.session_before ht'
      have hhosted := h.hosted _ t ht
      rw [hruntime] at hhosted
      refine ⟨exposing x.view st.exposed[t'.runtime], ?_, self_mem_exposing x.view _⟩
      rw [hexposed, List.getElem?_modify_eq, List.getElem?_eq_getElem hhosted]
      rfl
  distinct := by
    intro j k r r' v hj hk
    rcases hj.before hcustody hshift with hj' | ⟨-, x, rfl, rfl, hchannels, -⟩
    · rcases hk.before hcustody hshift with hk' | ⟨-, x, rfl, rfl, hchannels, -⟩
      · exact h.distinct j k r r' v hj' hk'
      · exact absurd hj' (hfresh x hchannels j r)
    · rcases hk.before hcustody hshift with hk' | ⟨-, y, -, rfl, hchannels', -⟩
      · exact absurd hk' (hfresh x hchannels k r')
      · -- There is one new channel, and it belongs to one session.
        have hxy : [x] = [y] := List.append_cancel_left (hchannels.symm.trans hchannels')
        rw [List.singleton_inj.mp hxy]
  hosted := by
    intro j t' ht'
    obtain ⟨t, ht, hruntime, -⟩ := hshift.session_before ht'
    rw [← hruntime]
    have hhosted := h.hosted j t ht
    rcases hshift.exposed_cases with hsame | ⟨n, v, hmore⟩ | ⟨_, s, _, x, -, -, -, -, hless⟩
    · rw [hsame]
      exact hhosted
    · rw [hmore, List.length_modify]
      exact hhosted
    · rw [hless, List.length_modify]
      exact hhosted
  roomy := by
    intro j t' ht'
    obtain ⟨t, ht, -, hsettings⟩ := hshift.session_before ht'
    rw [← hsettings]
    exact h.roomy j t ht

/-- Cameras are held by their owners, and buffers are shown to hosts by one session each. -/
structure Apart (owner : Nat → Nat) (st : Standing) : Prop where
  owned : ∀ j p : Nat, st.Holds j p → owner p = j
  exposed : ∀ (j r : Nat) (v : View), st.Shows j r v → ∃ vs, st.exposed[r]? = some vs ∧ v ∈ vs
  distinct : ∀ (j k r r' : Nat) (v : View), st.Shows j r v → st.Shows k r' v → j = k
  hosted : ∀ (j : Nat) (t : Session), st.sessions[j]? = some t → t.runtime < st.exposed.length
  roomy : ∀ (j : Nat) (t : Session), st.sessions[j]? = some t → t.settings.maxPoints ≠ 0

theorem Apart.shown {owner : Nat → Nat} {st : Standing} (h : Apart owner st) : Shown st :=
  ⟨h.exposed, h.distinct, h.hosted, h.roomy⟩

/-- **Sessions stay apart** if openings go for cameras of their own, and for buffers that nobody
    shows. -/
theorem Apart.shift {owner : Nat → Nat} {reaches : Nat → Nat → Prop} {st st' : Standing}
    (h : Apart owner st) (hcustody : Custody st) (hown : ∀ j p, reaches j p → owner p = j)
    (hfresh : ∀ x : Wiring, st'.channels = st.channels ++ [x] → ∀ k r, ¬st.Shows k r x.view)
    (hshift : Shift reaches st st') : Apart owner st' := by
  have hshown := h.shown.shift hcustody hfresh hshift
  refine ⟨?_, hshown.exposed, hshown.distinct, hshown.hosted, hshown.roomy⟩
  rintro j p ⟨t', o, ht', ho, rfl⟩
  rcases hshift.camera_before ht' ho with ⟨t, ht, ho⟩ | ⟨hreach, -⟩
  · exact h.owned j _ ⟨t, o, ht, ho, rfl⟩
  · exact hown j _ hreach

/-! ### Worlds of such sessions -/

/-- The buffer of an opening does not lie where another session has its own. -/
def Event.disjoint (e : Event) (w : World σ) : Bool :=
  match e with
  | .operate i (.openCamera _ _ address) =>
    w.relay.sessions.zipIdx.all fun (s, j) =>
      j = i || s.camera.all fun o => (w.relay.channel o.channel).view.address ≠ address
  | _ => true

/-- Buffers do not lie upon each other, in the course of a schedule. -/
def World.disjoint (h : Handler σ) : List Event → World σ → Bool
  | [], _ => true
  | e :: es, w => e.disjoint w && disjoint h es (w.step h e).2

/-- A world of sessions with cameras of their own, with the cameras `profiles`, whose hosts are
    calm. -/
structure World.Settled (owner : Nat → Nat) (profiles : List CameraProfile) (w : World σ) :
    Prop where
  custody : Custody w.standing
  attuned : Attuned w.standing
  apart : Apart owner w.standing
  fed : w.Fed
  calm : w.relay.Calm
  profiles : w.relay.cameras.map Camera.profile = profiles

namespace World

variable {w : World σ} {owner : Nat → Nat} {profiles : List CameraProfile}

/-- A new channel is the one of an opening, and its buffer lies where the opening says. -/
theorem opening_of_channels (h : Handler σ) {e : Event} (hcustody : Custody w.standing)
    {x : Wiring} (hnew : (w.step h e).2.standing.channels = w.standing.channels ++ [x]) :
    ∃ i d key address s b, e = .operate i (.openCamera d key address) ∧
      w.relay.sessions[i]? = some s ∧ s.state = .closed ∧
      FrameBuffer.ofCapacity address s.settings.maxPoints.toNat = .ok b ∧ x.view = b.view := by
  have hgrown : (w.step h e).2.standing.channels ≠ w.standing.channels := by
    rw [hnew]
    simp
  cases e with
  | operate i op =>
    rcases w.step_operate_cases h i op with hsame | ⟨hi, -, hafter⟩
    · exact absurd (by rw [hsame]) hgrown
    · have hs := List.getElem?_eq_getElem hi
      rcases Relay.perform_channels op hcustody hs with
        hsame | ⟨d, key, address, b, rfl, hclosed, hroom, hchannels⟩
      · refine absurd ?_ hgrown
        rw [hafter]
        exact congrArg (List.map Channel.wiring) hsame
      · refine ⟨i, d, key, address, _, b, rfl, hs, hclosed, hroom, ?_⟩
        rw [hafter] at hnew
        have hwirings := (congrArg (List.map Channel.wiring) hchannels).symm.trans hnew
        rw [List.map_append, List.map_singleton] at hwirings
        have hx := List.singleton_inj.mp (List.append_cancel_left hwirings)
        rw [← hx]
        rfl
  | _ =>
    refine absurd ((step_shift h _ hcustody).channels_of_unreached ?_) hgrown
    rintro i p ⟨-, d, key, address, he, -⟩
    exact absurd he (by simp)

/-- Nobody shows the buffer of a new channel. -/
theorem not_shows_new (h : Handler σ) {e : Event} (hcustody : Custody w.standing)
    (hshown : Shown w.standing) (hdisjoint : e.disjoint w = true) {x : Wiring}
    (hnew : (w.step h e).2.standing.channels = w.standing.channels ++ [x]) (k r : Nat) :
    ¬w.standing.Shows k r x.view := by
  rintro ⟨t', u', y, ht', hu', hy, -, hview⟩
  obtain ⟨i, d, key, address, s, b, rfl, hs, hclosed, hroom, hx⟩ :=
    opening_of_channels h hcustody hnew
  simp only [standing, Relay.standing, List.getElem?_map, Option.map_eq_some_iff] at ht' hy
  obtain ⟨t, ht, rfl⟩ := ht'
  obtain ⟨y, hy, rfl⟩ := hy
  obtain ⟨u, hu, rfl⟩ := Option.map_eq_some_iff.mp hu'
  have hki : k ≠ i := by
    rintro rfl
    obtain rfl : s = t := Option.some.inj (hs.symm.trans ht)
    have hnone := (Relay.of_custody hcustody hs).1.mp hclosed
    exact absurd hu (by simp [hnone])
  -- The new buffer has room, so its view tells where it lies.
  have haddress : x.view.address = address := by
    have hroomy := hshown.roomy i s.standing (Relay.session_standing hs)
    have hpos : s.settings.maxPoints.toNat ≠ 0 := fun hzero =>
      hroomy (UInt64.toNat_inj.mp hzero)
    obtain ⟨-, rfl⟩ := FrameBuffer.ofCapacity_eq_ok.mp hroom
    simp [hx, FrameBuffer.view, FrameBuffer.zeros, Sensor.floatsPerPoint, hpos]
  have hother := List.all_eq_true.mp hdisjoint (t, k) (List.mk_mem_zipIdx_iff_getElem?.mpr ht)
  have hchannel : w.relay.channel u.channel = y := Relay.channel_eq hy
  simp only [hki, decide_false, Bool.false_or, hu, Option.all_some, hchannel,
    decide_eq_true_eq] at hother
  apply hother
  rw [← haddress, ← hview]
  rfl

/-- Frames are delivered on channels of sessions that show their buffers. -/
theorem Settled.shows_of_delivered? (hw : w.Settled owner profiles) {e : Event} {k : Nat}
    {points : List Point} (hdelivered : w.delivered? e = some (k, points)) :
    ∃ (j : Nat) (s : Session) (o : OpenCamera) (x : Channel), w.relay.sessions[j]? = some s ∧
      s.camera = some o ∧ o.channel = k ∧ w.relay.channels[k]? = some x ∧ x.session = j ∧
      x.binding.runtime = s.runtime ∧ w.standing.Shows j s.runtime x.view := by
  obtain ⟨j, t, u, ht, hu, rfl⟩ := holder_of_delivered? hw.custody hw.fed.attended hdelivered
  obtain ⟨x, hx, hserves⟩ := Relay.wired_of_custody hw.custody ht hu
  have hshows : w.standing.Shows j t.runtime x.view :=
    ⟨t, u, x.wiring, ht, hu, Relay.channel_standing hx, rfl, rfl⟩
  simp only [standing, Relay.standing, List.getElem?_map, Option.map_eq_some_iff] at ht
  obtain ⟨s, hs, rfl⟩ := ht
  obtain ⟨o, ho, rfl⟩ := Option.map_eq_some_iff.mp hu
  exact ⟨j, s, o, x, hs, ho, rfl, hx, hserves.session, hserves.runtime, hshows⟩

/-- The way of a frame that is delivered at once is clear. -/
theorem Settled.clear (hw : w.Settled owner profiles) {e : Event} {k : Nat}
    {points : List Point} (hdelivered : w.delivered? e = some (k, points)) : w.relay.Clear k := by
  obtain ⟨j, s, o, x, hs, ho, rfl, hx, -, hruntime, hshows⟩ := hw.shows_of_delivered? hdelivered
  obtain ⟨vs, hvs, hview⟩ := hw.apart.exposed j s.runtime x.view hshows
  exact hw.calm.clear (visible_of_mem hx hruntime hvs hview)

/-- **A world of sessions with cameras of their own stays one**, as long as hosts refuse no thread,
    openings go for cameras of their own, and buffers do not lie upon each other. -/
theorem Settled.step (hw : w.Settled owner profiles) {h : Handler σ} (hreturns : h.Returns)
    {e : Event} (hattach : ∀ r, e ≠ .disableAttach r true)
    (hown : ∀ j p, e.Reaches w.relay j p → owner p = j) (hdisjoint : e.disjoint w = true) :
    (w.step h e).2.Settled owner profiles where
  custody := hw.custody.shift (step_shift h e hw.custody)
  attuned := by
    refine attuned_step h e hw.custody hw.attuned ?_
    intro i p j hreach hholds
    have hj := hw.apart.owned j p (Relay.holds_standing.mpr hholds)
    rw [← hj, hown i p hreach]
  apart := by
    refine hw.apart.shift hw.custody hown ?_ (step_shift h e hw.custody)
    intro x hnew
    exact not_shows_new h hw.custody hw.apart.shown hdisjoint hnew
  fed := hw.fed.step h hreturns hw.custody e
  calm := calm_step hreturns hw.custody hw.calm hattach fun k points hd => hw.clear hd
  profiles := (profiles_step h e hw.custody).trans hw.profiles

/-- Where runs start, nobody shows anything. -/
theorem shown_fresh (profiles : List CameraProfile) (runtimes : Nat)
    (sessions : List (Nat × Settings)) (host : σ) (now : Nat)
    (hvalid : ∀ r settings, (r, settings) ∈ sessions →
      r < runtimes ∧ settings.validate = .ok ()) :
    Shown (fresh profiles runtimes sessions host now).standing := by
  have hnone (j p : Nat) : ¬(fresh profiles runtimes sessions host now).standing.Holds j p :=
    not_holds_fresh profiles runtimes sessions host now j p
  have hsession {j : Nat} {t : Session}
      (ht : (fresh profiles runtimes sessions host now).standing.sessions[j]? = some t) :
      (t.runtime, t.settings) ∈ sessions := by
    simp only [standing, Relay.standing, fresh, List.getElem?_map, Option.map_eq_some_iff] at ht
    obtain ⟨_, ⟨⟨r, settings⟩, hj, rfl⟩, rfl⟩ := ht
    exact List.mem_of_getElem? hj
  refine ⟨?_, ?_, ?_, ?_⟩
  · rintro j r v ⟨t, o, x, ht, ho, -⟩
    exact absurd ⟨t, o, ht, ho, rfl⟩ (hnone j o.device.camera)
  · rintro j k r r' v ⟨t, o, x, ht, ho, -⟩
    exact absurd ⟨t, o, ht, ho, rfl⟩ (hnone j o.device.camera)
  · intro j t ht
    have hhosted := (hvalid _ _ (hsession ht)).1
    simpa [standing, Relay.standing, fresh] using hhosted
  · intro j t ht
    exact (Settings.bounds_of_validate (hvalid _ _ (hsession ht)).2).1.1

/-- Where runs start, sessions are apart. -/
theorem settled_fresh (profiles : List CameraProfile) (runtimes : Nat)
    (sessions : List (Nat × Settings)) (host : σ) (now : Nat)
    (hvalid : ∀ r settings, (r, settings) ∈ sessions →
      r < runtimes ∧ settings.validate = .ok ()) :
    (fresh profiles runtimes sessions host now).Settled owner profiles where
  custody := custody_fresh profiles runtimes sessions host now
  attuned := attuned_fresh profiles runtimes sessions host now
  apart := by
    have hshown := shown_fresh profiles runtimes sessions host now hvalid
    refine ⟨?_, hshown.exposed, hshown.distinct, hshown.hosted, hshown.roomy⟩
    exact fun j p hj => absurd hj (not_holds_fresh profiles runtimes sessions host now j p)
  fed := by
    intro k x hx
    exact absurd hx (by simp [Relay.books, fresh])
  calm := by
    intro r hr
    obtain rfl := List.eq_of_mem_replicate hr
    exact ⟨rfl, rfl⟩
  profiles := by simp [fresh, Function.comp_def]

end World

end DepthRelay
