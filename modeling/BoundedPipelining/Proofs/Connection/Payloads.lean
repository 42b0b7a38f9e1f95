import BoundedPipelining.Proofs.Connection.Deliveries

/-!
# From the peer to the caller

What the peer answers a request with goes through the write of the request, a dispatch task and the
body, and any number of other requests take the same way at the same time. `conveyed_faithfully`
says what arrives: the head of the one answer that the peer gave to this request, and of the chunks
that it sent in this answer the first ones, in their order. An end that no failure came before means
that all of them arrived and that the sender was finished.

The argument joins two records. What was handed into the payload of a write and what was taken out
of it is related by `Carried`, which knows nothing of callers. What a poll of the body yields is
related to what it takes out by `Sight.Exact`. The invariant `Conveyed` holds both together.

A drain yields what it collected, and only that. A chunk that was read before the drain began is not
in its result (`drained_remainder`), and neither is a failure that was read before. `Collected` says
which of the chunks that the body has yielded a drain has collected so far.
-/

namespace BoundedPipelining

/-- The chunk that is handed in. -/
def Put.chunk? : Put → Option Bytes
  | chunk bytes => some bytes
  | finish | fail _ => none

/-- A payload that has ended stays as it is when it is looked at. -/
theorem Payload.next_of_ended {p : Payload} (h : p.next.1 = .ended) : p.next.2 = p := by
  obtain ⟨hitems, -⟩ := next_eq_ended_iff.mp h
  rw [next, hitems]

namespace Connection

/-! ## Records of a run -/

/-- The answer that a step gives the request of write `i`. -/
def replied (c : Connection) (i : Nat) : Step → List (Request × Head)
  | .peer p => c.channel.replies i p
  | _ => []

/-- What a step hands into the payload of write `i`. -/
def handedIn (c : Connection) (i : Nat) : Step → List Put
  | .peer p => c.channel.puts i p
  | _ => []

/-- What a read of the body of lane `i` shows. -/
def readOut (c : Connection) (i : Nat) : Step → List Event
  | .caller (.read k) => c.shown i (.caller (.read k))
  | _ => []

variable {c c' : Connection} {i k : Nat} {l l' : Lane} {s : Step} {ss : List Sight}
  {log : List Event} {r : Request} {w : Write} {rs : List (Request × Head)} {ps : List Put}

theorem chunksOf_append (ss ss' : List Sight) :
    chunksOf (ss ++ ss') = chunksOf ss ++ chunksOf ss' := List.filterMap_append

theorem chunksOf_cons (s : Sight) (ss : List Sight) :
    chunksOf (s :: ss) = s.item.chunk?.toList ++ chunksOf ss := by
  rw [chunksOf, List.filterMap_cons]
  cases s.item.chunk? <;> rfl

/-- What a poll took out of the payload. -/
def Sight.taken (s : Sight) : List (Except TransportError Bytes) := s.looks.filterMap Look.item?

/-- A poll yields the chunk that it took out, and a failure if it took out one. -/
def Sight.Exact (s : Sight) : Prop :=
  s.taken = s.item.chunk?.toList.map .ok ∨ ∃ e cause, s.item = .failed e ∧ s.taken = [.error cause]

theorem BodySight.exact {s : Sight} (h : BodySight c i l s c') : s.Exact := by
  cases h with
  | kept | chunk | ended | told | pending => exact Or.inl rfl
  | broken => exact Or.inr ⟨_, _, rfl, rfl⟩

/-- The chunks that were yielded are those that were taken out. -/
theorem chunksOf_eq_taken (hss : ∀ s ∈ ss, s.Exact) :
    chunksOf ss = (ss.flatMap Sight.taken).filterMap Except.toOption := by
  induction ss with
  | nil => rfl
  | cons s ss ih =>
    rw [List.forall_mem_cons] at hss
    have hone : s.item.chunk?.toList = s.taken.filterMap Except.toOption := by
      rcases hss.1 with htaken | ⟨e, cause, hitem, htaken⟩
      · rw [htaken]
        cases s.item.chunk? <;> rfl
      · rw [htaken, hitem]
        rfl
    rw [chunksOf_cons, hone, ih hss.2, List.flatMap_cons, List.filterMap_append]

/-- As long as no failure was told, nothing but chunks was taken out. -/
theorem taken_eq_chunksOf (hss : ∀ s ∈ ss, s.Exact)
    (he : ∀ s ∈ ss, (Event.sight s).error? = none) :
    ss.flatMap Sight.taken = (chunksOf ss).map .ok := by
  induction ss with
  | nil => rfl
  | cons s ss ih =>
    rw [List.forall_mem_cons] at hss he
    have hone : s.taken = s.item.chunk?.toList.map .ok := by
      rcases hss.1 with htaken | ⟨e, cause, hitem, -⟩
      · exact htaken
      · obtain ⟨item, looks⟩ := s
        subst hitem
        cases he.1
    rw [chunksOf_cons, List.map_append, ← hone, ← ih hss.2 he.2, List.flatMap_cons]

/-! ## The write of a request -/

/-- How the write of request `r` stands after a run: the answers it was given, what was handed into
its payload, and what the polls of the body saw of it. -/
structure Conveyed (c : Connection) (i : Nat) (r : Request) (rs : List (Request × Head))
    (ps : List Put) (ss : List Sight) (w : Write) : Prop where
  write : c.channel.writes[i]? = some w
  request : w.request = r
  carried : Carried w rs ps (ss.flatMap Sight.taken)
  exact : ∀ s ∈ ss, s.Exact
  ended : (∃ s ∈ ss, .payload .ended ∈ s.looks) →
    (∃ head, w.fate = .answered head) ∧ w.payload.next.1 = .ended

/-- A poll that took nothing out. -/
private theorem Conveyed.seen (h : Conveyed c i r rs ps ss w) (hw : WriteKept c c' i)
    {new : List Sight} (hnew : ∀ s ∈ new, s.looks = [] ∧ s.Exact) :
    Conveyed c' i r rs ps (ss ++ new) w where
  write := hw w h.write
  request := h.request
  carried := by
    have hnone : new.flatMap Sight.taken = [] := by
      rw [List.flatMap_eq_nil_iff]
      intro s hs
      rw [Sight.taken, (hnew s hs).1]
      rfl
    rw [List.flatMap_append, hnone, List.append_nil]
    exact h.carried
  exact := List.forall_mem_append.mpr ⟨h.exact, fun s hs ↦ (hnew s hs).2⟩
  ended := by
    rintro ⟨s, hs, hlook⟩
    rcases List.mem_append.mp hs with hs | hs
    · exact h.ended ⟨s, hs, hlook⟩
    · rw [(hnew s hs).1] at hlook
      cases hlook

/-- A poll that looked at the payload. -/
private theorem Conveyed.looked {s : Sight} {item : PayloadItem} {x : Exchange} {head : Head}
    (h : Conveyed c i r rs ps ss w) (hf : w.fate = .answered head) (hc : Looked c i l x c')
    (hitem : (c.channel.read i).1 = item) (hs : s.Exact) (htaken : s.taken = item.item?.toList)
    (hended : .payload .ended ∈ s.looks → item = .ended) :
    Conveyed c' i r rs ps (ss ++ [s]) { w with payload := w.payload.next.2 } := by
  obtain ⟨hread, hwrite⟩ := Channel.read_eq h.write
  rw [hread] at hitem
  refine ⟨hc.channel ▸ hwrite, h.request, ?_, ?_, ?_⟩
  · rw [List.flatMap_append, List.flatMap_singleton, htaken, ← hitem]
    exact h.carried.next
  · exact List.forall_mem_append.mpr ⟨h.exact, fun t ht ↦ List.mem_singleton.mp ht ▸ hs⟩
  · rintro ⟨t, ht, hlook⟩
    have hnow : w.payload.next.1 = .ended := by
      rcases List.mem_append.mp ht with ht | ht
      · exact (h.ended ⟨t, ht, hlook⟩).2
      · rw [hitem]
        exact hended (List.mem_singleton.mp ht ▸ hlook)
    exact ⟨⟨head, hf⟩, by rw [Payload.next_of_ended hnow, hnow]⟩

/-- One poll of the body of an answered request. -/
private theorem Conveyed.sight {s : Sight} {head : Head} (h : Conveyed c i r rs ps ss w)
    (hf : w.fate = .answered head) (hs : BodySight c i l s c') :
    ∃ w', Conveyed c' i r rs ps (ss ++ [s]) w' ∧ w'.fate = .answered head := by
  have hexact := hs.exact
  cases hs with
  | kept =>
    refine ⟨w, h.seen (fun _ hw ↦ hw) ?_, hf⟩
    intro t ht
    cases List.mem_singleton.mp ht
    exact ⟨rfl, hexact⟩
  | chunk _ hitem hc => exact ⟨_, h.looked hf hc hitem hexact rfl (by simp), hf⟩
  | broken _ hitem _ hc => exact ⟨_, h.looked hf hc hitem hexact rfl (by simp), hf⟩
  | ended _ hitem _ hc => exact ⟨_, h.looked hf hc hitem hexact rfl fun _ ↦ rfl, hf⟩
  | told _ hitem _ hc => exact ⟨_, h.looked hf hc hitem hexact rfl (by simp), hf⟩
  | pending _ hitem hc => exact ⟨_, h.looked hf hc hitem hexact rfl (by simp), hf⟩

/-- All polls of a step. -/
private theorem Conveyed.polls {new : List Sight} {head : Head} (h : Conveyed c i r rs ps ss w)
    (hf : w.fate = .answered head) (hpolls : BodyPolls i c l new c' l') :
    ∃ w', Conveyed c' i r rs ps (ss ++ new) w' := by
  induction hpolls generalizing ss w with
  | nil =>
    rw [List.append_nil]
    exact ⟨w, h⟩
  | @cons _ _ _ _ _ _ s rest hsight _ _ _ _ ih =>
    obtain ⟨w₁, hw₁, hf₁⟩ := h.sight hf hsight
    rw [← List.singleton_append, ← List.append_assoc]
    exact ih hw₁ hf₁

/-- A step of the peer. -/
private theorem Conveyed.peer (h : Conveyed c i r rs ps ss w) (p : Channel.PeerStep) :
    ∃ w', Conveyed (c.step (.peer p)).2 i r (rs ++ c.replied i (.peer p))
      (ps ++ c.handedIn i (.peer p)) ss w' := by
  obtain ⟨w', hw', hstep⟩ := Channel.writeStep_peerStep h.write p
  refine ⟨w', (channel_step_peer c p).symm ▸ hw', ?_, h.carried.peerStep hstep, h.exact, ?_⟩
  · cases hstep with
    | kept | turned | answered | put => exact h.request
  · intro hlook
    -- A payload that was seen at its end was answered before, and takes nothing any more.
    obtain ⟨⟨head, hf⟩, hended⟩ := h.ended hlook
    cases hstep with
    | kept => exact ⟨⟨head, hf⟩, hended⟩
    | turned _ _ hbefore =>
      rw [hf] at hbefore
      rcases hbefore with hbefore | hbefore
      · cases hbefore
      · cases hbefore
    | answered _ _ hbefore =>
      rw [hf] at hbefore
      cases hbefore
    | put _ _ ho =>
      rw [(Payload.next_eq_ended_iff.mp hended).2] at ho
      cases ho

/-- The peer's answer and payload are conveyed by every step. -/
theorem Conveyed.step (h : Conveyed c i r rs ps (sightsOf log) w) (hh : HandedOver c)
    (hl : c.lanes[i]? = some l) (hs : LaneStep c i l s l') :
    ∃ w', Conveyed (c.step s).2 i r (rs ++ c.replied i s) (ps ++ c.handedIn i s)
      (sightsOf (log ++ c.shown i s)) w' := by
  by_cases hpeer : ∃ p, s = .peer p
  · obtain ⟨p, rfl⟩ := hpeer
    rw [shown_peer, List.append_nil]
    exact h.peer p
  · have hreplied : c.replied i s = [] := by
      rw [replied.eq_def]
      split
      · exact absurd ⟨_, rfl⟩ hpeer
      · rfl
    have hhanded : c.handedIn i s = [] := by
      rw [handedIn.eq_def]
      split
      · exact absurd ⟨_, rfl⟩ hpeer
      · rfl
    rw [hreplied, hhanded, List.append_nil, List.append_nil, sightsOf_append]
    cases hs with
    | peer => exact absurd ⟨_, rfl⟩ hpeer
    | aside hshown _ _ hw | left hshown _ hw =>
      rw [hshown]
      exact ⟨w, h.seen hw (by simp [sightsOf])⟩
    | resolved _ hshown _ _ _ hw =>
      rw [hshown]
      exact ⟨w, h.seen hw (by simp [sightsOf, Event.sight?])⟩
    | refused _ hshown _ _ hw =>
      rw [hshown]
      exact ⟨w, h.seen hw (by simp [sightsOf, Event.sight?])⟩
    | rested _ hshown _ hw =>
      rw [hshown]
      refine ⟨w, h.seen hw ?_⟩
      intro s hs
      cases List.mem_singleton.mp hs
      exact ⟨rfl, Or.inl rfl⟩
    | @polled _ n l₁ _ _ hpolling hpolls _ _ _ hch =>
      -- Whoever polls a body has been given the head of the answer.
      obtain ⟨head, hr⟩ := (hh i l hl).body (caller_of_polling hpolling hl).1
      obtain ⟨w₀, hw₀, hf⟩ := Channel.result?_eq_ok_iff.mp ((hh i l hl).head head hr).2
      cases h.write.symm.trans hw₀
      obtain ⟨w', hw'⟩ := h.polls hf hpolls
      rw [shown_of_polling hpolling, sightsOf_map_sight]
      exact ⟨w', hch ▸ hw'.write, hw'.request, hw'.carried, hw'.exact, hw'.ended⟩

/-! ## What a drain has collected -/

/-- What was shown of a body, against what its caller has read of it: nothing else, but for the
chunks that a drain has collected. -/
def Collected (log given : List Event) : Caller → Prop
  | .waiting => log = [] ∧ given = []
  | .holding _ =>
    chunksOf (sightsOf log) = chunksOf (sightsOf given) ∧ errorsOf log = errorsOf given
  | .draining collected => chunksOf (sightsOf log) = chunksOf (sightsOf given) ++ collected
  | .gone => True

theorem readOut_eq_or (c : Connection) (i : Nat) (s : Step) :
    c.readOut i s = c.shown i s ∨ c.readOut i s = [] := by
  rw [readOut.eq_def]
  split
  · exact Or.inl rfl
  · exact Or.inr rfl

/-- A caller that holds a body and is shown neither a chunk nor an error. -/
private theorem Collected.quiet {given : List Event} {done done' : Bool}
    (h : Collected log given (.holding done)) (hchunks : chunksOf (sightsOf (c.shown i s)) = [])
    (herrors : errorsOf (c.shown i s) = []) :
    Collected (log ++ c.shown i s) (given ++ c.readOut i s) (.holding done') := by
  have hread : chunksOf (sightsOf (c.readOut i s)) = [] ∧ errorsOf (c.readOut i s) = [] := by
    rcases readOut_eq_or c i s with hr | hr
    · rw [hr]
      exact ⟨hchunks, herrors⟩
    · rw [hr]
      exact ⟨rfl, rfl⟩
  refine ⟨?_, ?_⟩
  · rw [sightsOf_append, sightsOf_append, chunksOf_append, chunksOf_append, hchunks, hread.1, h.1]
  · rw [errorsOf_append, errorsOf_append, herrors, hread.2, h.2]

theorem Collected.step {given : List Event} (h : Collected log given l.caller)
    (hs : LaneStep c i l s l') :
    Collected (log ++ c.shown i s) (given ++ c.readOut i s) l'.caller := by
  have hkept (hshown : c.shown i s = []) (hk : l'.caller = l.caller) :
      Collected (log ++ c.shown i s) (given ++ c.readOut i s) l'.caller := by
    have hread : c.readOut i s = [] := by
      rcases readOut_eq_or c i s with hr | hr
      · exact hr.trans hshown
      · exact hr
    rw [hshown, hread, List.append_nil, List.append_nil, hk]
    exact h
  cases hs with
  | @peer p _ hk => exact hkept (shown_peer c i p) hk
  | aside hshown hk => exact hkept hshown hk
  | refused _ _ hk' | left _ hk' =>
    rw [hk']
    trivial
  | resolved hk hshown _ hk' =>
    rw [hk] at h
    obtain ⟨rfl, rfl⟩ := h
    rw [hshown, hk']
    exact ⟨rfl, rfl⟩
  | rested hk hshown ha =>
    rcases ha with ⟨-, hk'⟩ | ⟨-, hk'⟩
    · rw [hk] at h
      rw [hk']
      exact h.quiet (by rw [hshown]; rfl) (by rw [hshown]; rfl)
    · rw [hk']
      trivial
  | @polled _ n _ _ _ hpolling _ hend hk' =>
    have hseen : sightsOf (c.shown i s) = sights i n c := by
      rw [shown_of_polling hpolling, sightsOf_map_sight]
    generalize (c.step s).1 = a at hend
    rw [hk']
    cases hend with
    | read hk =>
      rw [hk] at h
      refine ⟨?_, ?_⟩
      · rw [sightsOf_append, sightsOf_append, chunksOf_append, chunksOf_append, h.1]
        rfl
      · rw [errorsOf_append, errorsOf_append, h.2]
        rfl
    | @drain _ collected _ _ hk hend =>
      have hchunks : chunksOf (sightsOf log) = chunksOf (sightsOf given) ++ collected := by
        rcases hk with ⟨hk, rfl⟩ | hk
        · rw [hk] at h
          exact h.1.trans (List.append_nil _).symm
        · rw [hk] at h
          exact h
      cases hend with
      | pending =>
        -- A drain reads nothing: the chunks that it sees are added to what it has collected.
        change chunksOf (sightsOf _) = chunksOf (sightsOf (given ++ [])) ++ _
        rw [sightsOf_append, chunksOf_append, hseen, hchunks, List.append_nil, List.append_assoc]
      | bytes | failed | violation => trivial

/-! ## A whole run -/

/-- The records of a run since a request was admitted: what its caller was shown, the answers it was
given, what was handed into its payload, and what of it was read. They fit its lane and write. -/
structure Recorded (c c' : Connection) (i : Nat) (r : Request) (steps : List Step) (l : Lane) :
    Prop where
  told : Told l (history (fun c s ↦ c.shown i s) c steps)
  conveyed : ∃ w, Conveyed c' i r (history (fun c s ↦ c.replied i s) c steps)
    (history (fun c s ↦ c.handedIn i s) c steps)
    (sightsOf (history (fun c s ↦ c.shown i s) c steps)) w
  collected : Collected (history (fun c s ↦ c.shown i s) c steps)
    (history (fun c s ↦ c.readOut i s) c steps) l.caller

theorem Recorded.step {done : List Step} (h : Recorded c (c.run done) i r done l)
    (hh : HandedOver (c.run done)) (hl : (c.run done).lanes[i]? = some l)
    (hs : LaneStep (c.run done) i l s l') (hf : l.Frame l') :
    Recorded c (c.run (done ++ [s])) i r (done ++ [s]) l' := by
  obtain ⟨htold, ⟨w, hw⟩, hcollected⟩ := h
  refine ⟨?_, ?_, ?_⟩
  · rw [history_snoc]
    exact htold.step hl hs hf
  · rw [run_append, history_snoc, history_snoc, history_snoc]
    exact hw.step hh hl hs
  · rw [history_snoc, history_snoc]
    exact hcollected.step hs

theorem recorded_run (hh : HandedOver c) (hu : Unfinished c) (h : JustAdmitted c r i)
    (steps : List Step) :
    ∃ l, (c.run steps).lanes[i]? = some l ∧ Recorded c (c.run steps) i r steps l := by
  obtain ⟨⟨l, hl, hk⟩, f, hf, hw⟩ := h
  have hfresh : Conveyed c i r [] [] [] ⟨r, f, {}⟩ := by
    refine ⟨hw, rfl, .fresh r hf, by simp, ?_⟩
    rintro ⟨s, hs, -⟩
    cases hs
  refine lane_run hh hu hl (P := fun done l ↦ Recorded c (c.run done) i r done l)
    ⟨.nothing (Or.inl hk), ⟨_, hfresh⟩, ?_⟩ ?_ steps
  · rw [hk]
    exact ⟨rfl, rfl⟩
  · intro done s l l' hh' hl' hs hframe h
    exact h.step hh' hl' hs hframe

/-! ## What arrives -/

/-- What was conveyed from the peer to the caller of request `r`. -/
structure Faithful (r : Request) (log : List Event) (rs : List (Request × Head)) (ps : List Put) :
    Prop where
  /-- The head is that of the one answer that the peer gave to the request. -/
  head : ∀ head, .ok head ∈ resultsOf log → rs = [(r, head)]
  /-- The chunks are the first of those that were sent in that answer. -/
  chunks : chunksOf (sightsOf log) <+: ps.filterMap Put.chunk?
  /-- An end without a failure means that all of them arrived and that the sender was finished. -/
  ended : (∃ s ∈ sightsOf log, s.item = .ended) → errorsOf log = [] →
    ps = (chunksOf (sightsOf log)).map .chunk ++ [.finish]

/-- The head that a caller was shown is the one that was handed over to it. -/
private theorem Told.reply_of_head {head : Head} (h : Told l log)
    (hhead : .ok head ∈ resultsOf log) : l.reply = .sent (.ok head) := by
  cases h with
  | nothing => cases hhead
  | refused => cases List.mem_singleton.mp hhead
  | body hr =>
    rw [resultsOf_cons_result, resultsOf_map_sight] at hhead
    cases List.mem_singleton.mp hhead
    exact hr

private theorem error?_eq_none {event : Event} (he : errorsOf log = []) (h : event ∈ log) :
    event.error? = none := List.filterMap_eq_nil_iff.mp he event h

private theorem mem_of_sightsOf {s : Sight} (h : s ∈ sightsOf log) : .sight s ∈ log := by
  obtain ⟨event, hevent, hs⟩ := List.mem_filterMap.mp h
  cases event with
  | result _ => cases hs
  | sight s' =>
    cases hs
    exact hevent

/-- A body that is done and has told no failure saw the payload at its end. -/
private theorem Told.saw_end (h : Told l log) (he : errorsOf log = [])
    (hdone : l.caller = .holding true ∨ ∃ s ∈ sightsOf log, s.item.isDone = true) :
    (⟨.ended, [.payload .ended]⟩ : Sight) ∈ sightsOf log := by
  cases h with
  | nothing hk =>
    rcases hdone with hdone | ⟨s, hs, -⟩
    · rcases hk with hk | hk
      · cases hk.symm.trans hdone
      · cases hk.symm.trans hdone
    · cases hs
  | refused hk =>
    rcases hdone with hdone | ⟨s, hs, -⟩
    · cases hk.symm.trans hdone
    · cases hs
  | body _ _ hss =>
    rw [sightsOf_cons_result, sightsOf_map_sight] at hdone ⊢
    cases hss with
    | unfinished hne hss =>
      rcases hdone with hdone | ⟨s, hs, hdone⟩
      · exact absurd hdone hne
      · rw [(hss s hs).1] at hdone
        cases hdone
    | @finished ss last n _ _ hlast =>
      have hmem : last ∈ ss ++ last :: List.replicate n ⟨.ended, []⟩ :=
        List.mem_append_right ss List.mem_cons_self
      cases hlast with
      | failed =>
        have hnone := error?_eq_none he (List.mem_cons_of_mem _ (List.mem_map_of_mem hmem))
        cases hnone
      | ended => exact hmem

/-- What was told is faithful to what was conveyed. -/
theorem Conveyed.faithful (h : Conveyed c i r rs ps (sightsOf log) w) (hh : HandedOver c)
    (hl : c.lanes[i]? = some l) (ht : Told l log) : Faithful r log rs ps := by
  refine ⟨fun head hhead ↦ ?_, ?_, fun hended he ↦ ?_⟩
  · obtain ⟨w', hw', hf⟩ := Channel.result?_eq_ok_iff.mp
      ((hh i l hl).head head (ht.reply_of_head hhead)).2
    cases h.write.symm.trans hw'
    rw [h.carried.replies_eq hf, h.request]
  · have hchunk (x : Put) : x.chunk? = x.item?.bind Except.toOption := by
      cases x <;> rfl
    have hsent : ps.filterMap Put.chunk? = (ps.filterMap Put.item?).filterMap Except.toOption := by
      rw [List.filterMap_filterMap]
      exact List.filterMap_congr fun x _ ↦ hchunk x
    rw [hsent, chunksOf_eq_taken h.exact]
    exact h.carried.prefix_of_chunks.filterMap _
  · obtain ⟨t, hmem, hitem⟩ := hended
    have hsaw := ht.saw_end he (Or.inr ⟨t, hmem, by rw [hitem]; rfl⟩)
    obtain ⟨⟨head, hf⟩, hend⟩ := h.ended ⟨_, hsaw, List.mem_singleton_self _⟩
    exact h.carried.puts_eq_of_end hf hend (taken_eq_chunksOf h.exact fun s hs ↦
      error?_eq_none he (mem_of_sightsOf hs))

/-! ## What a drain yields -/

/-- A drain that yields a body found it done before, or took it to its end. -/
private theorem drained_cases {body : Bytes} (hk : c.calls[k]? = some (.admitted i))
    (hl : c.lanes[i]? = some l) (hu : l.caller.isOpen = true → l.exchange.progress ≠ .completed)
    (h : (c.step (.caller (.drain k))).1 = .drained body) :
    l.caller = .holding true ∧ body = [] ∨
      ∃ n collected, c.polling? (.caller (.drain k)) = some (i, n) ∧
        (l.caller = .holding false ∧ collected = [] ∨ l.caller = .draining collected) ∧
        (∃ s ∈ sights i n c, s.item = .ended) ∧
        body = (collected ++ chunksOf (sights i n c)).flatten := by
  have hlane := laneOf?_of_admitted hk hl
  have hpolled {n : Nat} (ho : l.caller.isOpen = true)
      (hpolling : c.polling? (.caller (.drain k)) = some (i, n)) :
      ∃ n collected, c.polling? (.caller (.drain k)) = some (i, n) ∧
        (l.caller = .holding false ∧ collected = [] ∨ l.caller = .draining collected) ∧
        (∃ s ∈ sights i n c, s.item = .ended) ∧
        body = (collected ++ chunksOf (sights i n c)).flatten := by
    obtain ⟨k', hend, -⟩ := step_of_polling hpolling hl (hu ho)
    rw [h] at hend
    generalize ha : Answer.drained body = a at hend
    cases hend with
    | @drain _ collected d _ hcaller hend =>
      cases hend with
      | bytes hended =>
        cases ha
        exact ⟨n, collected, hpolling, hcaller, hended, rfl⟩
      | pending | failed | violation => cases ha
  have hgone (hact : c.drain k = (.gone, c)) : False := by
    have ha : (c.step (.caller (.drain k))).1 = .gone := congrArg Prod.fst hact
    rw [h] at ha
    cases ha
  cases hcaller : l.caller with
  | holding done =>
    cases done with
    | true =>
      have ha : (c.step (.caller (.drain k))).1 = .drained [] := by
        change (c.drain k).1 = _
        simp only [drain, hlane, hcaller]
      cases h.symm.trans ha
      exact Or.inl ⟨rfl, rfl⟩
    | false =>
      rw [hcaller] at hpolled
      refine Or.inr (hpolled (n := c.waitingItems i + 1) rfl ?_)
      simp only [polling?, hlane, hcaller]
  | draining collected =>
    rw [hcaller] at hpolled
    refine Or.inr (hpolled (n := c.waitingItems i + 1) rfl ?_)
    simp only [polling?, hlane, hcaller]
  | waiting | gone =>
    refine absurd ?_ hgone
    simp only [drain, hlane, hcaller]

/-- Polls that saw an end told no failure. -/
private theorem BodyPolls.no_failure (h : BodyPolls i c l ss c' l')
    (hended : ∃ s ∈ ss, s.item = .ended) : ∀ s ∈ ss, (Event.sight s).error? = none := by
  obtain ⟨t, ht, hitem⟩ := hended
  rcases h.goesOn_or_ends with hss | ⟨before, last, rfl, hbefore, hlast⟩
  · exact fun s hs ↦ (hss s hs).error?
  · refine List.forall_mem_append.mpr ⟨fun s hs ↦ (hbefore s hs).error?, ?_⟩
    intro s hs
    rw [List.mem_singleton.mp hs]
    rcases List.mem_append.mp ht with ht | ht
    · have hgoes := (hbefore t ht).1
      rw [hitem] at hgoes
      cases hgoes
    · rw [List.mem_singleton.mp ht] at hitem
      cases hlast with
      | failed => cases hitem
      | ended => rfl

/-- What a drain yields is what was sent and not read before, unless a failure was read. -/
private theorem Recorded.drained {c₀ : Connection} {steps : List Step} {body : Bytes}
    (h : Recorded c₀ c i r steps l) (hh : HandedOver c) (hu : Unfinished c)
    (hl : c.lanes[i]? = some l) (hk : c.calls[k]? = some (.admitted i))
    (ha : (c.step (.caller (.drain k))).1 = .drained body) :
    errorsOf (history (fun c s ↦ c.readOut i s) c₀ steps) ≠ [] ∧ body = [] ∨
      ∃ rest, history (fun c s ↦ c.handedIn i s) c₀ steps
        = (chunksOf (sightsOf (history (fun c s ↦ c.readOut i s) c₀ steps)) ++ rest).map .chunk
          ++ [.finish] ∧
        body = rest.flatten := by
  obtain ⟨htold, ⟨w, hw⟩, hcollected⟩ := h
  generalize history (fun c s ↦ c.shown i s) c₀ steps = log at *
  generalize history (fun c s ↦ c.handedIn i s) c₀ steps = ps at *
  generalize history (fun c s ↦ c.readOut i s) c₀ steps = given at *
  rcases drained_cases hk hl (hu i l hl) ha with
    ⟨hdone, rfl⟩ | ⟨n, collected, hpolling, hcaller, hended, rfl⟩
  · rw [hdone] at hcollected
    obtain ⟨hchunks, herrors⟩ := hcollected
    by_cases he : errorsOf log = []
    · -- The body came to its end before, and all that was sent was read.
      refine Or.inr ⟨[], ?_, rfl⟩
      rw [List.append_nil, ← hchunks]
      exact (hw.faithful hh hl htold).ended ⟨_, htold.saw_end he (Or.inl hdone), rfl⟩ he
    · exact Or.inl ⟨herrors ▸ he, rfl⟩
  · have ho := (caller_of_polling hpolling hl).2
    have hchunks : chunksOf (sightsOf log) = chunksOf (sightsOf given) ++ collected := by
      rcases hcaller with ⟨hcaller, rfl⟩ | hcaller
      · rw [hcaller] at hcollected
        exact hcollected.1.trans (List.append_nil _).symm
      · rw [hcaller] at hcollected
        exact hcollected
    -- The drain itself is the last step of the record.
    obtain ⟨l₁, -, hpolls⟩ := bodyPolls_sights hl (hu i l hl ho) n
    obtain ⟨l₂, hl₂, hs⟩ := lane_step hh hl (hu i l hl) (.caller (.drain k))
    obtain ⟨l₃, hl₃, hframe⟩ := (frame_step c (.caller (.drain k))).lane i l hl
    cases hl₂.symm.trans hl₃
    obtain ⟨w', hw'⟩ := hw.step hh hl hs
    have hfaithful := hw'.faithful (hh.step _) hl₂ (htold.step hl hs hframe)
    rw [shown_of_polling hpolling] at hfaithful
    have hsights : sightsOf (log ++ (sights i n c).map .sight) = sightsOf log ++ sights i n c := by
      rw [sightsOf_append, sightsOf_map_sight]
    have hnone : errorsOf (log ++ (sights i n c).map .sight) = [] := by
      rw [errorsOf_append, htold.errorsOf_of_isOpen ho, List.nil_append, errorsOf,
        List.filterMap_eq_nil_iff]
      intro event hevent
      obtain ⟨t, ht, rfl⟩ := List.mem_map.mp hevent
      exact hpolls.no_failure hended t ht
    obtain ⟨t, ht, hitem⟩ := hended
    have hputs := hfaithful.ended ⟨t, hsights ▸ List.mem_append_right _ ht, hitem⟩ hnone
    rw [hsights, chunksOf_append, hchunks, List.append_assoc] at hputs
    exact Or.inr ⟨collected ++ chunksOf (sights i n c), (List.append_nil ps).symm.trans hputs, rfl⟩

/-- **What the peer sends is what the caller gets.** Let a step of a run admit request `r`, and let
any steps follow. The head that its caller is shown is that of the one answer that the peer gave to
this request; the chunks that its body yields are the first of those that the peer sent in this
answer, in their order; and the body ends without a failure only if they are all of them and the
sender was finished. A drain that yields a body yields the chunks that were not read before it, all
of them and of a finished sender, unless a failure was read before; then it yields nothing. -/
theorem conveyed_faithfully (d : Depth) (policy : ClosingPolicy) {before after : List Step}
    {r : Request} {i : Nat}
    (hk : ((ofDepth d policy).run (before ++ [.caller (.request r)])).calls[
      ((ofDepth d policy).run before).calls.size]? = some (.admitted i)) :
    let c₀ := (ofDepth d policy).run (before ++ [.caller (.request r)])
    let c := (ofDepth d policy).run (before ++ .caller (.request r) :: after)
    let log := history (fun c s ↦ c.shown i s) c₀ after
    let sent := history (fun c s ↦ c.handedIn i s) c₀ after
    let read := history (fun c s ↦ c.readOut i s) c₀ after
    Faithful r log (history (fun c s ↦ c.replied i s) c₀ after) sent ∧
    ∀ k body, c.calls[k]? = some (.admitted i) →
      (c.step (.caller (.drain k))).1 = .drained body →
      errorsOf read ≠ [] ∧ body = [] ∨
        ∃ rest, sent = (chunksOf (sightsOf read) ++ rest).map .chunk ++ [.finish] ∧
          body = rest.flatten := by
  intro c₀ c log sent read
  have hc₀ : c₀ = (((ofDepth d policy).run before).step (.caller (.request r))).2 :=
    run_append _ _ _
  have hc : c = c₀.run after := by
    rw [hc₀]
    exact run_append _ before (.caller (.request r) :: after)
  have hh₀ : HandedOver c₀ := handedOver_run d policy _
  have hu₀ : Unfinished c₀ := unfinished_run d policy _
  have hh : HandedOver c := handedOver_run d policy _
  have hu : Unfinished c := unfinished_run d policy _
  have hadmitted : JustAdmitted c₀ r i :=
    hc₀ ▸ justAdmitted_of_request (numbered_run d policy before) (hc₀ ▸ hk)
  obtain ⟨l, hl, hrecorded⟩ := recorded_run hh₀ hu₀ hadmitted after
  rw [← hc] at hl hrecorded
  obtain ⟨w, hw⟩ := hrecorded.conveyed
  exact ⟨hw.faithful hh hl hrecorded.told, fun _ _ hcall ha ↦ hrecorded.drained hh hu hl hcall ha⟩

/-- Two requests are answered the other way round, and each caller gets its own answer. -/
theorem conveyed_faithfully_of_two :
    let before : List Step := [.caller (.request ⟨"GET", "/a", []⟩)]
    let after : List Step := [.peer .next, .peer .next, .peer (.respondWith 1 {} [98]),
      .peer (.respondWith 0 {} [97]), .poll (.dispatch 0), .poll (.dispatch 1),
      .caller (.await 1), .caller (.read 1)]
    let c₀ := (ofDepth ⟨2, by decide⟩ .accept).run
      (before ++ [.caller (.request ⟨"GET", "/b", []⟩)])
    let log := history (fun c s ↦ c.shown 1 s) c₀ after
    let sent := history (fun c s ↦ c.handedIn 1 s) c₀ after
    Faithful ⟨"GET", "/b", []⟩ log (history (fun c s ↦ c.replied 1 s) c₀ after) sent ∧
    chunksOf (sightsOf log) = [[98]] ∧ sent.filterMap Put.chunk? = [[98]] := by
  intro before after c₀ log sent
  obtain ⟨hfaithful, -⟩ := @conveyed_faithfully ⟨2, by decide⟩ .accept before after
    ⟨"GET", "/b", []⟩ 1 rfl
  exact ⟨hfaithful, by decide +kernel, by decide +kernel⟩

private theorem eq_drained_of_matches {a : Answer} (h : (a matches .drained []) = true) :
    a = .drained [] := by
  split at h
  · rfl
  · cases h

/-- A body is read before it is drained: the drain yields nothing, although a chunk was sent. -/
theorem drained_remainder :
    let before : List Step := [.caller (.request ⟨"GET", "/a", []⟩)]
    let after : List Step := [.peer .next, .peer (.respondWith 0 {} [104, 105]),
      .poll (.dispatch 0), .caller (.await 0), .caller (.read 0)]
    let c₀ := (ofDepth ⟨1, by decide⟩ .accept).run before
    let sent := history (fun c s ↦ c.handedIn 0 s) c₀ after
    ((c₀.run after).step (.caller (.drain 0))).1 = .drained [] ∧
    (sent.filterMap Put.chunk?).flatten = [104, 105] := by
  exact ⟨eq_drained_of_matches (by decide +kernel), by decide +kernel⟩

end Connection

end BoundedPipelining
