import BoundedPipelining.Proofs.Connection.Frames

/-!
# One error for everyone

Errors reach a caller by many ways: through a response future, a body, a drain, a future of the
terminal error, or a request that was issued too late. Whichever way it takes, an error is the one
that the tracker closed with.

Two facts carry this. What an exchange or a dispatch task keeps is the tracker's error by the
invariant, and what is told is either kept or read off the tracker at the time. And the tracker's
error is written once: every later close, whatever its cause, finds it and leaves it. So of any two
errors told in one run, the second is the first.

A request that is turned away by the policy of a closing connection is told an error of its own,
and is no exception: it was never admitted, and the connection had not closed.
-/

namespace BoundedPipelining

namespace Connection

variable {c c' c₀ : Connection} {i k : Nat} {l : Lane} {e e₀ : ClassifiedError} {s : Step}

/-! ## Errors kept and errors told -/

/-- An exchange or its dispatch task keeps an error for the caller. -/
inductive Keeps (c : Connection) (e : ClassifiedError) : Prop
  | exchange {i : Nat} {l : Lane} (h : c.lanes[i]? = some l) (hf : l.exchange.failure? = some e)
  | reply {i : Nat} {l : Lane} (h : c.lanes[i]? = some l) (hr : l.reply = .sent (.error e))

/-- A step tells someone an error. -/
inductive Yields (c : Connection) (s : Step) (e : ClassifiedError) : Prop
  /-- The response future of an admitted request. -/
  | response {k i : Nat} (hs : s = .caller (.await k)) (hk : c.calls[k]? = some (.admitted i))
      (ha : (c.step s).1 = .failed (.closed e))
  /-- A body, as a stream or in a drain. -/
  | body {k : Nat} (hs : s.bodyCall? = some k) (ha : (c.step s).1 = .bodyFailed e)
  /-- A future of the terminal error. -/
  | terminal {k : Nat} (hs : s = .caller (.pollWatch k)) (ha : (c.step s).1 = .closedWith e)
  /-- The future of a request that was issued after the close. -/
  | late {c₀ : Connection} {r : Request} {k : Nat} {between : List Step}
      (hc₀ : c₀.tracker.isClosed = true) (hk : (c₀.step (.caller (.request r))).1 = .call k)
      (hc : c = (c₀.step (.caller (.request r))).2.run between) (hs : s = .caller (.await k))
      (ha : (c.step s).1 = .failed (.closed e))

theorem Sound.keeps (hc : Sound c) (h : Keeps c e) : c.tracker = .closed e := by
  rcases h with ⟨h, hf⟩ | ⟨h, hr⟩
  · exact (hc.lane _ _ h).failure e hf
  · exact (hc.lane _ _ h).reply e hr

theorem Sound.tells (hc : Sound c) (h : Tells c i e) : c.tracker = .closed e := by
  rcases h with ht | ⟨l, hl, hf⟩
  · exact ht
  · exact (hc.lane i l hl).failure e hf

/-! ## Response futures -/

private theorem awaitLane_failed (hc : Sound c) (h : c.lanes[i]? = some l)
    (ha : (c.awaitLane i l).1 = .failed (.closed e)) : c.tracker = .closed e := by
  rw [awaitLane] at ha
  split at ha
  · cases ha
  · cases ha
  · rename_i e' hr
    cases ha
    exact (hc.lane i l h).reply _ hr
  · split at ha
    · cases ha
    · rename_i e' ht
      have hclosed := Tracker.terminal?_eq_some_iff.mp ht
      rw [failExchange_eq_put h] at ha
      cases ha
      rcases l.exchange.fail_cases e' c.books with ⟨kept, hf, heq⟩ | ⟨-, heq⟩ | ⟨-, heq⟩
      · rw [heq]
        exact (hc.lane i l h).failure kept hf
      · rw [heq]
        exact hclosed
      · rw [heq]
        exact hclosed

private theorem await_failed (hc : Sound c) (hk : c.calls[k]? = some (.admitted i))
    (ha : (c.await k).1 = .failed (.closed e)) : c.tracker = .closed e := by
  simp only [await, hk] at ha
  split at ha
  · rename_i j l hlane
    split at ha
    · exact awaitLane_failed hc (laneOf?_eq_some_iff.mp hlane).2 ha
    · cases ha
  · cases ha

/-- The future of a request that was issued after the close is told the error of the close, or was
told before. -/
private theorem late_failed (hc₀ : c₀.tracker = .closed e₀) {r : Request} {between : List Step}
    (hk : (c₀.step (.caller (.request r))).1 = .call k)
    (ha : (((c₀.step (.caller (.request r))).2.run between).await k).1 = .failed (.closed e)) :
    e = e₀ := by
  have hanswer : (c₀.act (.caller (.request r))).1 = .call k := hk
  have hrefused : (c₀.act (.caller (.request r))).2.calls[k]? = some (.refused (.closed e₀)) := by
    rw [act, callerStep, asFacade] at hanswer ⊢
    split at hanswer
    · rename_i hf
      rw [if_pos hf]
      simp only [request, hc₀, turnAway] at hanswer ⊢
      cases hanswer
      exact Array.getElem?_push_size
    · cases hanswer
  -- The refusal is still there to be told, or its caller was told before.
  have hframe := (reclaim_moves (c₀.act (.caller (.request r))).2).frame.trans
    (frame_run (c₀.step (.caller (.request r))).2 between)
  obtain ⟨y, hy, rfl | ⟨-, rfl⟩⟩ := hframe.call k _ hrefused
  · simp only [await, hy] at ha
    cases ha
    rfl
  · simp [await, laneOf?, hy] at ha

/-! ## Bodies -/

/-- A body that fails tells the error of the close. -/
theorem Sound.body_failed (hc : Sound c) (hs : s.bodyCall? = some k)
    (ha : (c.step s).1 = .bodyFailed e) : (c.step s).2.tracker = .closed e := by
  have hstep := bodyStep_of_step (c := c) hs
  generalize (c.step s).1 = a at hstep ha
  generalize (c.step s).2 = c' at hstep ⊢
  rcases hstep with ⟨-, -, hend, -, -, -, -⟩ | ⟨m, htells, m'⟩ | - | ⟨-, -, hf⟩
  · rw [ha] at hend
    cases hend
  · cases ha
    exact m'.frame.tracker e ((hc.moves m).tells htells)
  · cases ha
  · exact absurd ha (hf e)

/-! ## Whoever is told -/

/-- Whatever is told is the error of the close. -/
theorem Sound.yields (hc : Sound c) (h : Yields c s e) : (c.step s).2.tracker = .closed e := by
  rcases h with ⟨rfl, hk, ha⟩ | ⟨hs, ha⟩ | ⟨rfl, ha⟩ | ⟨hc₀, hk, rfl, rfl, ha⟩
  · exact (frame_step c _).tracker e (await_failed hc hk ha)
  · exact hc.body_failed hs ha
  · rename_i k
    refine (frame_step c _).tracker e ?_
    have hact : (c.callerStep (.pollWatch k)).1 = .closedWith e := ha
    rw [callerStep] at hact
    split at hact
    · split at hact
      · cases hact
      · rename_i e' ht
        cases hact
        exact Tracker.terminal?_eq_some_iff.mp ht
    · cases hact
  · rename_i c₀ r k between
    obtain ⟨e₀, he₀⟩ := Option.isSome_iff_exists.mp ((Tracker.terminal?_isSome _).trans hc₀)
    have hclosed := Tracker.terminal?_eq_some_iff.mp he₀
    cases late_failed hclosed hk ha
    exact (frame_step _ _).tracker e
      ((frame_run _ between).tracker e ((frame_step c₀ _).tracker e hclosed))

/-- **One terminal error for all.** Whatever error an exchange or a dispatch task keeps, the tracker
has closed with it; whatever error a step tells, the tracker has closed with it by the end of the
step; the tracker keeps it for good; and so whoever is told an error later in the run is told the
same. -/
theorem one_terminal_error (d : Depth) (policy : ClosingPolicy) (steps : List Step) :
    let c := (ofDepth d policy).run steps
    (∀ e, Keeps c e → c.tracker = .closed e) ∧
    (∀ s e, Yields c s e → (c.step s).2.tracker = .closed e) ∧
    (∀ e, c.tracker = .closed e → ∀ more, (c.run more).tracker = .closed e) ∧
    (∀ s e, Yields c s e → ∀ more s' e', Yields ((c.step s).2.run more) s' e' → e' = e) := by
  intro c
  have hc : Sound c := sound_run d policy steps
  refine ⟨fun e ↦ hc.keeps, fun s e ↦ hc.yields, fun e ht more ↦ (frame_run c more).tracker e ht,
    fun s e hyields more s' e' hyields' ↦ ?_⟩
  -- By the end of the later step the tracker has the error of both.
  have hlast : ((((c.step s).2.run more).step s').2).tracker = .closed e :=
    (frame_step _ s').tracker e ((frame_run _ more).tracker e (hc.yields hyields))
  have hlast' := ((hc.step s).changes (run_changes _ more)).yields hyields'
  cases hlast.symm.trans hlast'
  rfl

/-- A payload that fails closes the connection before the reset does, and the response that was
still awaited is failed with the payload's error. -/
theorem one_terminal_error_of_payload :
    let c := (ofDepth ⟨2, by decide⟩ .accept).run [.caller (.request ⟨"GET", "/a", []⟩),
      .caller (.request ⟨"GET", "/b", []⟩), .peer .next, .peer (.respond 0 {}),
      .poll (.dispatch 0), .caller (.await 0), .peer (.failPayload 0 (.protocol "bad frame")),
      .caller (.read 0), .peer (.reset .closed), .poll .monitor, .poll (.dispatch 1)]
    let e := classify false (some (.protocol "bad frame"))
    (∃ l, c.lanes[1]? = some l ∧ l.exchange.failure? = some e) ∧ c.tracker = .closed e := by
  intro c e
  obtain ⟨hkeeps, -, -, -⟩ := one_terminal_error ⟨2, by decide⟩ .accept [
    .caller (.request ⟨"GET", "/a", []⟩), .caller (.request ⟨"GET", "/b", []⟩), .peer .next,
    .peer (.respond 0 {}), .poll (.dispatch 0), .caller (.await 0),
    .peer (.failPayload 0 (.protocol "bad frame")), .caller (.read 0), .peer (.reset .closed),
    .poll .monitor, .poll (.dispatch 1)]
  have hfailed : (c.lanes[1]?).map (fun l ↦ l.exchange.failure?) = some (some e) := by
    decide +kernel
  obtain ⟨l, hl, hf⟩ := Option.map_eq_some_iff.mp hfailed
  exact ⟨⟨l, hl, hf⟩, hkeeps e (.exchange hl hf)⟩

end Connection

end BoundedPipelining
