import BoundedPipelining.Proofs.Channel.Writes
import BoundedPipelining.Proofs.Connection.Soundness

/-!
# What a dispatch task hands over

A dispatch task stands between an exchange and its caller: it moves the exchange to its headers and
hands the head over in one poll, or hands over the error with which the exchange failed. So what was
handed over tells where the exchange is, and the order in which the task and the body may move the
exchange follows from it. `HandedOver` says how.

* As long as nothing was handed over, the exchange has not moved, unless it failed. So the headers
  never come to an exchange that is past them.
* Once the head was handed over, the exchange is past its headers, and the head is that of its own
  write. Only then can a caller hold the body, so a body never completes an exchange that has not
  received its headers.
* An error that was handed over is the error of the exchange, and no body comes with it.
-/

namespace BoundedPipelining

namespace Connection

/-- What was handed over to the caller of lane `i`, over this channel. -/
structure LaneHandedOver (ch : Channel) (i : Nat) (l : Lane) : Prop where
  none : (∀ r, l.reply ≠ .sent r) →
    l.exchange.progress = .dispatched ∨ ∃ e, l.exchange.failure? = some e
  head : ∀ head, l.reply = .sent (.ok head) →
    l.exchange.progress ≠ .dispatched ∧ ch.result? i = some (.ok head)
  error : ∀ e, l.reply = .sent (.error e) → l.exchange.failure? = some e
  body : l.caller.hasBody = true → ∃ head, l.reply = .sent (.ok head)

/-- What was handed over to the callers of a connection. -/
def HandedOver (c : Connection) : Prop :=
  ∀ i l, c.lanes[i]? = some l → LaneHandedOver c.channel i l

variable {c c' : Connection} {i : Nat} {l l' : Lane} {b : Books}

theorem handedOver_ofDepth (d : Depth) (policy : ClosingPolicy) :
    HandedOver (ofDepth d policy) := by
  intro i l h
  simp [ofDepth] at h

private theorem progress_draining {x : Exchange} (h : x.progress ≠ .dispatched) :
    x.draining.progress ≠ .dispatched := by
  obtain ⟨_, progress, _, _⟩ := x
  cases progress with
  | dispatched => exact absurd rfl h
  | headersReceived | payloadDraining | completed | failed _ => simp [Exchange.draining]

/-- A move of the lane keeps what was handed over in order. -/
private theorem LaneHandedOver.move (h : LaneHandedOver c.channel i l)
    (m : LaneMove c i l l' b) : LaneHandedOver c.channel i l' := by
  cases m with
  | @head head _ _ hres _ =>
    refine ⟨fun hnone ↦ absurd rfl (hnone (.ok head)), ?_, ?_, fun _ ↦ ⟨head, rfl⟩⟩
    · rintro _ ⟨⟩
      exact ⟨by simp, hres⟩
    · rintro e ⟨⟩
  | @failure e hr hwhy =>
    have hbefore := h.none (by simp [hr])
    refine ⟨fun hnone ↦ absurd rfl (hnone (.error e)), ?_, ?_, fun hb ↦ ?_⟩
    · rintro _ ⟨⟩
    · rintro _ ⟨⟩
      -- An exchange from which nothing was handed over has not completed.
      rcases hwhy with hf | ⟨hcompleted, -⟩
      · exact hf
      · rcases hbefore with hp | ⟨e', hf⟩
        · rw [hp] at hcompleted
          cases hcompleted
        · rw [Exchange.failure?_eq_some_iff, hcompleted] at hf
          cases hf
    · obtain ⟨head, hhead⟩ := h.body hb
      rw [hr] at hhead
      cases hhead
  | lost hr _ =>
    refine ⟨fun _ ↦ h.none (by simp [hr]), ?_, ?_, fun hb ↦ ?_⟩
    · rintro _ ⟨⟩
    · rintro _ ⟨⟩
    · obtain ⟨head, hhead⟩ := h.body hb
      rw [hr] at hhead
      cases hhead
  | draining hb =>
    obtain ⟨head, hhead⟩ := h.body hb
    obtain ⟨hp, hres⟩ := h.head head hhead
    refine ⟨fun hnone ↦ absurd hhead (hnone _), fun head' hhead' ↦ ?_, fun e he ↦ ?_, h.body⟩
    · cases hhead.symm.trans hhead'
      exact ⟨progress_draining hp, hres⟩
    · rw [Exchange.failure?_draining]
      exact h.error e he
  | caller _ hb =>
    refine ⟨h.none, h.head, h.error, fun hk ↦ ?_⟩
    rcases hb hk with hold | hhead
    · exact h.body hold
    · exact hhead
  | watch | unwatch | giveBack => exact ⟨h.none, h.head, h.error, h.body⟩
  | @fail e _ hs =>
    have hfailed : ((({ l.exchange with progress := .failed e }).settle .failed c.books).1).progress
        = .failed e := Exchange.progress_settle _ _ _
    refine ⟨fun _ ↦ Or.inr ⟨e, Exchange.failure?_eq_some_iff.mpr hfailed⟩, fun head hr ↦ ?_,
      fun e' hr ↦ ?_, h.body⟩
    · refine ⟨?_, (h.head head hr).2⟩
      rw [hfailed]
      simp
    · -- An exchange whose error was handed over has failed, so it does not fail now.
      have hterminal := Exchange.isTerminal_of_failure? (h.error e' hr)
      simp [Phase.holdsSlot, hterminal] at hs

/-- What was handed over is kept by a channel that keeps its answers. -/
private theorem LaneHandedOver.channel {ch ch' : Channel} (h : LaneHandedOver ch i l)
    (hch : ∀ head, ch.result? i = some (.ok head) → ch'.result? i = some (.ok head)) :
    LaneHandedOver ch' i l where
  none := h.none
  head head hr := ⟨(h.head head hr).1, hch head (h.head head hr).2⟩
  error := h.error
  body := h.body

private theorem HandedOver.put (hc : HandedOver c) (h : c.lanes[i]? = some l)
    (hl : LaneHandedOver c.channel i l') : HandedOver (c.put i l' b) := by
  intro j l₁ hj
  rcases lane?_put_cases h hj with ⟨rfl, rfl⟩ | ⟨-, hj⟩
  · exact hl
  · exact hc j l₁ hj

theorem HandedOver.move (hc : HandedOver c) (m : Move c c') : HandedOver c' := by
  cases m with
  | peer s =>
    intro i l h
    exact (hc i l h).channel fun _ hres ↦ Channel.answered_peerStep hres s
  | take =>
    intro i l h
    exact (hc i l h).channel fun _ hres ↦ by rwa [Channel.result?_read]
  | lane h m => exact hc.put h ((hc _ _ h).move m)
  | leave =>
    intro i l h
    exact (hc i l h).channel fun _ hres ↦ hres
  | refuse | told | watches | heed | monitor | close => exact hc

theorem HandedOver.completion (hc : HandedOver c) (h : Completion c i c') : HandedOver c' := by
  obtain @⟨l, hl, hb, -, -, -⟩ := h
  have hlane := hc i l hl
  obtain ⟨head, hhead⟩ := hlane.body hb
  refine hc.put hl ⟨fun hnone ↦ absurd hhead (hnone _), fun head' hr ↦ ?_, fun e hr ↦ ?_,
    hlane.body⟩
  · exact ⟨by simp, (hlane.head head' hr).2⟩
  · cases hhead.symm.trans hr

/-- A task that is stopped hands nothing over, and what it had handed over stays. -/
private theorem sent_stopped_iff {q : Reply} {r : Except ClassifiedError Head} :
    (if q.isAwaited then .lost else q) = .sent r ↔ q = .sent r := by
  cases q with
  | awaited => simp [Reply.isAwaited]
  | sent _ | lost => simp [Reply.isAwaited]

theorem HandedOver.change (hc : HandedOver c) (h : Change c c') : HandedOver c' := by
  rcases h with m | h | h | h
  · exact hc.move m
  · rw [h.eq]
    intro i l hl
    change (c.lanes.push _)[i]? = some l at hl
    rw [Array.getElem?_push] at hl
    split at hl
    · cases hl
      refine ⟨fun _ ↦ Or.inl ?_, fun head hr ↦ ?_, fun e hr ↦ ?_, fun hb ↦ ?_⟩
      · rw [newLane]
        split <;> rfl
      · rw [newLane] at hr
        split at hr <;> cases hr
      · rw [newLane] at hr
        split at hr <;> cases hr
      · rw [newLane] at hb
        split at hb <;> cases hb
    · exact (hc i l hl).channel fun _ hres ↦ Channel.answered_write_iff.mpr hres
  · exact hc.completion h
  · rw [h]
    intro i l hl
    simp only [stopTasks, Array.getElem?_map, Option.map_eq_some_iff] at hl
    obtain ⟨l₀, h₀, rfl⟩ := hl
    have hlane := hc i l₀ h₀
    exact ⟨fun hnone ↦ hlane.none fun r hr ↦ hnone r (sent_stopped_iff.mpr hr),
      fun head hr ↦ hlane.head head (sent_stopped_iff.mp hr),
      fun e hr ↦ hlane.error e (sent_stopped_iff.mp hr),
      fun hb ↦ (hlane.body hb).imp fun _ hr ↦ sent_stopped_iff.mpr hr⟩

theorem HandedOver.changes (hc : HandedOver c) (h : Changes c c') : HandedOver c' :=
  h.keeps (fun _ _ h hc ↦ hc.change h) hc

theorem HandedOver.step (hc : HandedOver c) (s : Step) : HandedOver (c.step s).2 :=
  hc.changes (step_changes c s)

theorem handedOver_run (d : Depth) (policy : ClosingPolicy) (steps : List Step) :
    HandedOver ((ofDepth d policy).run steps) :=
  (handedOver_ofDepth d policy).changes (run_changes _ steps)

end Connection

end BoundedPipelining
