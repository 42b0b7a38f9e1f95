import BoundedPipelining.Channel.Basic

/-!
# What becomes of a write

A write is answered once, and from then on its payload is a queue: the sender hands chunks in at one
end until it finishes or fails the payload, and whoever reads takes them out at the other. `Carried`
says how a write stands after a whole history of this, told by what it was answered with, what was
handed in and what was taken out.

Two clauses carry it. What was taken out, followed by what still waits, is what was handed in; this
is where nothing is dropped, reordered or duplicated. And a payload that is closed was closed by
something handed in last; this is where an end cannot be told from a cut by looking at the queue,
only by looking at what the sender did.

The peer names a write by the number under which it took it, and only a write that is in its hands
can be answered. So whatever a step of the peer does, `writeStep_peerStep` says what it makes of one
write, and the two histories `replies` and `puts` say what it told that write.
-/

namespace BoundedPipelining

/-! ## Handing in and taking out -/

/-- What the sender of a payload hands in. -/
inductive Put where
  | chunk (bytes : Bytes)
  /-- The sender finishes the payload, or goes away without failing it. -/
  | finish
  | fail (e : TransportError)

/-- The item that waits in the payload from then on. -/
def Put.item? : Put → Option (Except TransportError Bytes)
  | chunk bytes => some (.ok bytes)
  | finish => none
  | fail e => some (.error e)

/-- Whether nothing can be handed in afterwards. -/
def Put.isLast : Put → Bool
  | chunk _ => false
  | finish | fail _ => true

/-- The item that a look at a payload takes out. -/
def PayloadItem.item? : PayloadItem → Option (Except TransportError Bytes)
  | chunk bytes => some (.ok bytes)
  | error e => some (.error e)
  | ended | pending => none

namespace Payload

/-- A payload after something was handed in. -/
def put (p : Payload) : Put → Payload
  | .chunk bytes => { p with items := p.items ++ [.ok bytes] }
  | .finish => { p with isOpen := false }
  | .fail e => { items := p.items ++ [.error e], isOpen := false }

theorem items_put (p : Payload) (x : Put) : (p.put x).items = p.items ++ x.item?.toList := by
  cases x with
  | chunk bytes => rfl
  | finish => exact (List.append_nil _).symm
  | fail e => rfl

theorem isOpen_put {p : Payload} (h : p.isOpen = true) (x : Put) :
    (p.put x).isOpen = !x.isLast := by
  cases x with
  | chunk bytes => exact h
  | finish | fail e => rfl

theorem isOpen_next (p : Payload) : p.next.2.isOpen = p.isOpen := by
  obtain ⟨items, isOpen⟩ := p
  match items with
  | [] | .ok _ :: _ | .error _ :: _ => rfl

/-- What is taken out was the first that waited. -/
theorem item_next (p : Payload) : p.next.1.item?.toList ++ p.next.2.items = p.items := by
  obtain ⟨items, isOpen⟩ := p
  match items with
  | .ok _ :: _ | .error _ :: _ => rfl
  | [] => cases isOpen <;> rfl

theorem next_eq_ended_iff {p : Payload} :
    p.next.1 = .ended ↔ p.items = [] ∧ p.isOpen = false := by
  obtain ⟨items, isOpen⟩ := p
  match items with
  | .ok _ :: _ | .error _ :: _ => simp [next]
  | [] => cases isOpen <;> simp [next]

end Payload

namespace Channel

variable {c : Channel} {i : Nat} {w w' : Write} {s : PeerStep}

/-- Looking at the payload of a write changes that payload. -/
theorem read_eq (h : c.writes[i]? = some w) :
    (c.read i).1 = w.payload.next.1 ∧
      (c.read i).2.writes[i]? = some { w with payload := w.payload.next.2 } := by
  constructor
  · simp only [read, h]
  · simp [read, h, Array.getElem?_modify]

/-- Looking at a payload leaves every other write as it is. -/
theorem write?_read_ne {j : Nat} (hij : i ≠ j) (c : Channel) :
    (c.read i).2.writes[j]? = c.writes[j]? := by
  rw [read]
  split
  · rfl
  · rw [Array.getElem?_modify, if_neg hij]

theorem result?_eq_ok_iff {head : Head} :
    c.result? i = some (.ok head) ↔ ∃ w, c.writes[i]? = some w ∧ w.fate = .answered head := by
  rw [result?]
  cases h : c.writes[i]? with
  | none => simp
  | some w =>
    obtain ⟨r, fate, p⟩ := w
    cases fate <;> simp

theorem result?_read (c : Channel) (i j : Nat) : (c.read i).2.result? j = c.result? j := by
  cases h : c.writes[i]? with
  | none => simp only [read, h]
  | some w =>
    by_cases hij : i = j
    · subst hij
      simp only [result?, (read_eq h).2, h]
    · simp only [result?, write?_read_ne hij]

/-- A write that is new has no answer. -/
theorem answered_write_iff {r : Request} {head : Head} :
    (c.write r).result? i = some (.ok head) ↔ c.result? i = some (.ok head) := by
  rw [result?_eq_ok_iff, result?_eq_ok_iff]
  constructor
  · rintro ⟨w, hget, hfate⟩
    rw [write, Array.getElem?_push] at hget
    split at hget
    · cases hget
      dsimp only at hfate
      split at hfate <;> cases hfate
    · exact ⟨w, hget, hfate⟩
  · rintro ⟨w, hget, hfate⟩
    have hi : i < c.writes.size := (Array.getElem?_eq_some_iff.mp hget).1
    exact ⟨w, by rw [write, Array.getElem?_push, if_neg (Nat.ne_of_lt hi), hget], hfate⟩

/-! ## What the peer tells a write -/

/-- The answer with this head to the `j`-th taken request, if write `i` carries that request and is
still unanswered. -/
def repliesAt (c : Channel) (i j : Nat) (head : Head) : List (Request × Head) :=
  match c.takenWrite? j with
  | some (i', w) => if i' = i ∧ w.fate = .taken then [(w.request, head)] else []
  | none => []

/-- The answer that a step of the peer gives write `i`, with the request that the write carries. -/
def replies (c : Channel) (i : Nat) : PeerStep → List (Request × Head)
  | .respond j head | .respondWith j head _ => c.repliesAt i j head
  | _ => []

/-- What a step of the peer hands into the payload of write `i`. -/
def puts (c : Channel) (i : Nat) : PeerStep → List Put
  | .respondWith j _ body => if c.pending? j = some i then [.chunk body, .finish] else []
  | .send j chunk => if c.sending? j = some i then [.chunk chunk] else []
  | .finish j => if c.sending? j = some i then [.finish] else []
  | .failPayload j e => if c.sending? j = some i then [.fail e] else []
  | _ => []

theorem takenWrite?_eq_some {j : Nat} (h : c.takenWrite? j = some (i, w)) :
    c.writes[i]? = some w := by
  rw [takenWrite?] at h
  split at h
  · cases h
  · obtain ⟨v, hv, hpair⟩ := Option.map_eq_some_iff.mp h
    cases hpair
    exact hv

theorem taken_of_takenWrite {j : Nat} (h : c.takenWrite? j = some (i, w)) :
    c.taken[j]? = some i := by
  rw [takenWrite?] at h
  split at h
  · cases h
  · rename_i i' hi'
    obtain ⟨v, -, hpair⟩ := Option.map_eq_some_iff.mp h
    cases hpair
    exact hi'

theorem pending?_eq_some_iff {j : Nat} :
    c.pending? j = some i ↔ ∃ w, c.takenWrite? j = some (i, w) ∧ w.fate = .taken := by
  rw [pending?]
  split
  · rename_i i' w h
    by_cases hw : w.fate = .taken
    · rw [if_pos hw, h]
      constructor
      · intro hi
        cases hi
        exact ⟨w, rfl, hw⟩
      · rintro ⟨v, hv, -⟩
        cases hv
        rfl
    · rw [if_neg hw, h]
      constructor
      · intro hi
        cases hi
      · rintro ⟨v, hv, hfate⟩
        cases hv
        exact absurd hfate hw
  · rename_i h
    rw [h]
    simp

theorem sending?_eq_some_iff {j : Nat} :
    c.sending? j = some i ↔ ∃ w, c.takenWrite? j = some (i, w) ∧ w.payload.isOpen = true := by
  rw [sending?]
  split
  · rename_i i' w h
    rw [h, Option.ite_none_right_eq_some, Option.some_inj]
    constructor
    · rintro ⟨hopen, rfl⟩
      exact ⟨w, rfl, hopen⟩
    · rintro ⟨v, hv, hopen⟩
      cases hv
      exact ⟨hopen, rfl⟩
  · rename_i h
    rw [h]
    simp

/-- Nothing is handed into the payload of a write that there is not. -/
theorem puts_of_none (h : c.writes[i]? = none) (s : PeerStep) : c.puts i s = [] := by
  have htaken {j : Nat} {w : Write} : c.takenWrite? j ≠ some (i, w) := fun hj ↦ by
    cases h.symm.trans (takenWrite?_eq_some hj)
  have hpending (j : Nat) : c.pending? j ≠ some i := fun hj ↦ by
    obtain ⟨w, hw, -⟩ := pending?_eq_some_iff.mp hj
    exact htaken hw
  have hsending (j : Nat) : c.sending? j ≠ some i := fun hj ↦ by
    obtain ⟨w, hw, -⟩ := sending?_eq_some_iff.mp hj
    exact htaken hw
  cases s with
  | respondWith j _ _ => exact if_neg (hpending j)
  | send j _ | finish j | failPayload j _ => exact if_neg (hsending j)
  | _ => rfl

theorem repliesAt_of_pending {j : Nat} (h : c.writes[i]? = some w)
    (hj : c.pending? j = some i) (head : Head) :
    c.repliesAt i j head = [(w.request, head)] ∧ w.fate = .taken := by
  obtain ⟨v, hv, hfate⟩ := pending?_eq_some_iff.mp hj
  cases (takenWrite?_eq_some hv).symm.trans h
  exact ⟨by simp [repliesAt, hv, hfate], hfate⟩

theorem repliesAt_of_not_pending {j : Nat} (hj : c.pending? j ≠ some i) (head : Head) :
    c.repliesAt i j head = [] := by
  rw [repliesAt]
  split
  · rename_i i' v hv
    rw [if_neg]
    rintro ⟨rfl, hfate⟩
    exact hj (pending?_eq_some_iff.mpr ⟨v, hv, hfate⟩)
  · rfl

/-- What a step of the peer makes of write `i`. -/
inductive WriteStep (c : Channel) (i : Nat) (w : Write) (s : PeerStep) : Write → Prop
  | kept (hr : c.replies i s = []) (hp : c.puts i s = []) : WriteStep c i w s w
  /-- The write is taken, failed or lost. -/
  | turned {f : Fate} (hr : c.replies i s = []) (hp : c.puts i s = [])
      (h : w.fate = .queued ∨ w.fate = .taken) (hf : ∀ head, f ≠ .answered head) :
      WriteStep c i w s { w with fate := f }
  | answered {head : Head} (hr : c.replies i s = [(w.request, head)])
      (hp : c.puts i s = [] ∨ ∃ body, c.puts i s = [.chunk body, .finish])
      (h : w.fate = .taken) :
      WriteStep c i w s { w with
        fate := .answered head, payload := (c.puts i s).foldl Payload.put { isOpen := true } }
  | put {x : Put} (hr : c.replies i s = []) (hp : c.puts i s = [x])
      (ho : w.payload.isOpen = true) :
      WriteStep c i w s { w with payload := w.payload.put x }

private theorem write?_setFate (c : Channel) (j i : Nat) (f : Fate) :
    (c.setFate j f).writes[i]?
      = if j = i then (c.writes[i]?).map fun w ↦ { w with fate := f } else c.writes[i]? :=
  Array.getElem?_modify

private theorem write?_onPayload (c : Channel) (j i : Nat) (f : Payload → Payload) :
    (c.onPayload j f).writes[i]?
      = if j = i then (c.writes[i]?).map fun w ↦ { w with payload := f w.payload }
        else c.writes[i]? :=
  Array.getElem?_modify

private theorem write?_answer (c : Channel) (j i : Nat) (head : Head) (p : Payload) :
    (c.answer j head p).writes[i]?
      = if j = i then (c.writes[i]?).map fun w ↦ { w with fate := .answered head, payload := p }
        else c.writes[i]? := by
  have hset : ((c.setFate j (.answered head)).onPayload j fun _ ↦ p).writes[i]?
      = if j = i then (c.writes[i]?).map fun w ↦ { w with fate := .answered head, payload := p }
        else c.writes[i]? := by
    rw [write?_onPayload, write?_setFate]
    split
    · rw [Option.map_map]
      rfl
    · rfl
  rw [answer]
  split <;> exact hset

private theorem writeStep_take (h : c.writes[i]? = some w) (hr : c.replies i s = [])
    (hp : c.puts i s = []) (a : PeerAnswer) :
    ∃ w', (c.take a).2.writes[i]? = some w' ∧ WriteStep c i w s w' := by
  rw [take]
  split
  · exact ⟨w, h, .kept hr hp⟩
  · rename_i j hj
    split
    · exact ⟨w, h, .kept hr hp⟩
    · rename_i v hv
      by_cases hji : j = i
      · -- The write that is taken was queued.
        subst hji
        have hqueued : w.fate = .queued := by
          obtain ⟨hlt, hfound, -⟩ := Array.findIdx?_eq_some_iff_getElem.mp hj
          rw [(Array.getElem?_eq_some_iff.mp h).2] at hfound
          exact beq_iff_eq.mp hfound
        refine ⟨{ w with fate := .taken }, ?_, .turned hr hp (Or.inl hqueued) (by simp)⟩
        rw [write?_setFate, if_pos rfl, h]
        rfl
      · refine ⟨w, ?_, .kept hr hp⟩
        rw [write?_setFate, if_neg hji, h]

private theorem writeStep_dropPeer (h : c.writes[i]? = some w) (hr : c.replies i s = [])
    (hp : c.puts i s = []) :
    ∃ w', c.dropPeer.writes[i]? = some w' ∧ WriteStep c i w s w' := by
  have hget : c.dropPeer.writes[i]?
      = some (if w.fate = .queued then { w with fate := .lost } else w) := by
    rw [dropPeer, Array.getElem?_map, h]
    rfl
  rw [hget]
  split
  · rename_i hqueued
    exact ⟨_, rfl, .turned hr hp (Or.inl hqueued) (by simp)⟩
  · exact ⟨w, rfl, .kept hr hp⟩

private theorem writeStep_asPeer (h : c.writes[i]? = some w) (hr : c.replies i s = [])
    (hp : c.puts i s = []) {act : PeerAnswer × Channel}
    (hact : ∃ w', act.2.writes[i]? = some w' ∧ WriteStep c i w s w') :
    ∃ w', (c.asPeer act).2.writes[i]? = some w' ∧ WriteStep c i w s w' := by
  rw [asPeer]
  split
  · exact hact
  · exact ⟨w, h, .kept hr hp⟩

/-- What is done to the write behind a pending request is done to no other write. -/
private theorem writeStep_onPending (h : c.writes[i]? = some w) {j : Nat} {act : Nat → Channel}
    (hother : c.pending? j ≠ some i → c.replies i s = [] ∧ c.puts i s = [])
    (hne : ∀ i', i' ≠ i → (act i').writes[i]? = c.writes[i]?)
    (hself : c.pending? j = some i → ∃ w', (act i).writes[i]? = some w' ∧ WriteStep c i w s w') :
    ∃ w', (c.onPending j act).2.writes[i]? = some w' ∧ WriteStep c i w s w' := by
  rw [onPending]
  split
  · rename_i hnone
    obtain ⟨hr, hp⟩ := hother (by rw [hnone]; simp)
    exact ⟨w, h, .kept hr hp⟩
  · rename_i i' hi'
    by_cases hii : i' = i
    · subst hii
      exact hself hi'
    · obtain ⟨hr, hp⟩ := hother fun heq ↦ hii (Option.some.inj (hi'.symm.trans heq))
      exact ⟨w, (hne i' hii).trans h, .kept hr hp⟩

private theorem writeStep_onSending (h : c.writes[i]? = some w) {j : Nat} {x : Put}
    (hr : c.replies i s = []) (hp : c.puts i s = if c.sending? j = some i then [x] else []) :
    ∃ w', (c.onSending j fun p ↦ p.put x).2.writes[i]? = some w' ∧ WriteStep c i w s w' := by
  rw [onSending]
  split
  · rename_i hnone
    rw [hnone, if_neg (by simp)] at hp
    exact ⟨w, h, .kept hr hp⟩
  · rename_i i' hi'
    by_cases hii : i' = i
    · subst hii
      rw [if_pos hi'] at hp
      have hopen : w.payload.isOpen = true := by
        obtain ⟨v, hv, ho⟩ := sending?_eq_some_iff.mp hi'
        cases (takenWrite?_eq_some hv).symm.trans h
        exact ho
      refine ⟨_, ?_, .put hr hp hopen⟩
      rw [write?_onPayload, if_pos rfl, h]
      rfl
    · rw [if_neg fun heq ↦ hii (Option.some.inj (hi'.symm.trans heq))] at hp
      refine ⟨w, ?_, .kept hr hp⟩
      rw [write?_onPayload, if_neg hii, h]

/-- Whatever a step of the peer does, a write stays or takes one of its own steps. -/
theorem writeStep_peerStep (h : c.writes[i]? = some w) (s : PeerStep) :
    ∃ w', (c.peerStep s).2.writes[i]? = some w' ∧ WriteStep c i w s w' := by
  have hanswer {j : Nat} {head : Head} {p : Payload} (hr : c.replies i s = c.repliesAt i j head)
      (hnone : c.pending? j ≠ some i → c.puts i s = [])
      (hputs : c.pending? j = some i →
        (c.puts i s = [] ∨ ∃ body, c.puts i s = [.chunk body, .finish]) ∧
        (c.puts i s).foldl Payload.put { isOpen := true } = p) :
      ∃ w', (c.onPending j fun i ↦ c.answer i head p).2.writes[i]? = some w' ∧
        WriteStep c i w s w' := by
    refine writeStep_onPending h (fun hj ↦ ⟨hr.trans (repliesAt_of_not_pending hj head), hnone hj⟩)
      (fun i' hne ↦ by rw [write?_answer, if_neg hne]) fun hj ↦ ?_
    obtain ⟨hreplies, hfate⟩ := repliesAt_of_pending h hj head
    obtain ⟨hp, rfl⟩ := hputs hj
    refine ⟨_, ?_, .answered (hr.trans hreplies) hp hfate⟩
    rw [write?_answer, if_pos rfl, h]
    rfl
  have hturn {j : Nat} {f : Fate} (hr : c.replies i s = []) (hp : c.puts i s = [])
      (hf : ∀ head, f ≠ .answered head) :
      ∃ w', (c.onPending j fun i ↦ c.setFate i f).2.writes[i]? = some w' ∧
        WriteStep c i w s w' := by
    refine writeStep_onPending h (fun _ ↦ ⟨hr, hp⟩)
      (fun i' hne ↦ by rw [write?_setFate, if_neg hne]) fun hj ↦ ?_
    refine ⟨{ w with fate := f }, ?_, .turned hr hp (Or.inr (repliesAt_of_pending h hj {}).2) hf⟩
    rw [write?_setFate, if_pos rfl, h]
    rfl
  cases s with
  | next | await => exact writeStep_asPeer h rfl rfl (writeStep_take h rfl rfl _)
  | respond j head => exact hanswer rfl (fun _ ↦ rfl) fun _ ↦ ⟨Or.inl rfl, rfl⟩
  | respondWith j head body =>
    refine hanswer rfl (fun hj ↦ if_neg hj) fun hj ↦ ?_
    have hputs : c.puts i (.respondWith j head body) = [.chunk body, .finish] := if_pos hj
    exact ⟨Or.inr ⟨body, hputs⟩, by rw [hputs]; rfl⟩
  | failWrite j e => exact hturn rfl rfl (by simp)
  | dropPending j => exact hturn rfl rfl (by simp)
  | send j chunk => exact writeStep_onSending (x := .chunk chunk) h rfl rfl
  | finish j => exact writeStep_onSending (x := .finish) h rfl rfl
  | failPayload j e => exact writeStep_onSending (x := .fail e) h rfl rfl
  | announce | close | reset => exact writeStep_asPeer h rfl rfl ⟨w, h, .kept rfl rfl⟩
  | drop => exact writeStep_dropPeer h rfl rfl

/-- An answered write keeps its answer. -/
theorem answered_peerStep {head : Head} (h : c.result? i = some (.ok head)) (s : PeerStep) :
    (c.peerStep s).2.result? i = some (.ok head) := by
  obtain ⟨w, hw, hfate⟩ := result?_eq_ok_iff.mp h
  obtain ⟨w', hw', hstep⟩ := writeStep_peerStep hw s
  refine result?_eq_ok_iff.mpr ⟨w', hw', ?_⟩
  rcases hstep with ⟨-, -⟩ | ⟨-, -, hq | ht, -⟩ | ⟨-, -, ht⟩ | ⟨-, -, -⟩
  · exact hfate
  · rw [hq] at hfate
    cases hfate
  · rw [ht] at hfate
    cases hfate
  · rw [ht] at hfate
    cases hfate
  · exact hfate

end Channel

/-! ## The history of a write -/

/-- How a write stands that was given these answers and into whose payload this was handed. -/
inductive Served (w : Write) : List (Request × Head) → List Put → Prop
  | unanswered (hf : ∀ head, w.fate ≠ .answered head) (hp : w.payload = {}) : Served w [] []
  | sending {head : Head} {chunks : List Bytes} (hf : w.fate = .answered head)
      (ho : w.payload.isOpen = true) : Served w [(w.request, head)] (chunks.map .chunk)
  | ended {head : Head} {chunks : List Bytes} {x : Put} (hf : w.fate = .answered head)
      (ho : w.payload.isOpen = false) (hx : x.isLast = true) :
      Served w [(w.request, head)] (chunks.map .chunk ++ [x])

/-- How a write stands after a history: the answers it was given, what was handed into its payload
and what was taken out. -/
structure Carried (w : Write) (replies : List (Request × Head)) (puts : List Put)
    (taken : List (Except TransportError Bytes)) : Prop where
  served : Served w replies puts
  fifo : taken ++ w.payload.items = puts.filterMap Put.item?

namespace Carried

variable {w w' : Write} {rs : List (Request × Head)} {ps : List Put}
  {taken : List (Except TransportError Bytes)}

theorem fresh (r : Request) {f : Fate} (hf : ∀ head, f ≠ .answered head) :
    Carried ⟨r, f, {}⟩ [] [] [] := ⟨.unanswered hf rfl, rfl⟩

/-- A fate that is not an answer tells that nothing was handed in or taken out. -/
private theorem of_unanswered (h : Carried w rs ps taken) (hf : ∀ head, w.fate ≠ .answered head) :
    rs = [] ∧ ps = [] ∧ taken = [] ∧ w.payload = {} := by
  obtain ⟨hserved, hfifo⟩ := h
  rcases hserved with ⟨-, hp⟩ | ⟨hanswered, -⟩ | ⟨hanswered, -, -⟩
  · exact ⟨rfl, rfl, (List.append_eq_nil_iff.mp hfifo).1, hp⟩
  · exact absurd hanswered (hf _)
  · exact absurd hanswered (hf _)

/-- A payload may still be sent if the write was answered and nothing that was handed in is the
last. -/
theorem isOpen_iff (h : Carried w rs ps taken) : w.payload.isOpen = true ↔
    (∃ head, w.fate = .answered head) ∧ ps.any Put.isLast = false := by
  rcases h.served with ⟨hun, hp⟩ | ⟨hf, ho⟩ | ⟨-, ho, hx⟩
  · rw [hp]
    exact iff_of_false Bool.false_ne_true fun ⟨⟨head, hf⟩, _⟩ ↦ hun head hf
  · refine iff_of_true ho ⟨⟨_, hf⟩, ?_⟩
    rw [List.any_map]
    exact List.any_eq_false.mpr fun _ _ ↦ Bool.false_ne_true
  · rw [ho]
    refine iff_of_false Bool.false_ne_true fun ⟨_, hlast⟩ ↦ ?_
    rw [List.any_append, List.any_cons, hx] at hlast
    simp at hlast

private theorem put (h : Carried w rs ps taken) (ho : w.payload.isOpen = true) (x : Put) :
    Carried { w with payload := w.payload.put x } rs (ps ++ [x]) taken := by
  obtain ⟨hserved, hfifo⟩ := h
  refine ⟨?_, ?_⟩
  · have hopen := Payload.isOpen_put ho x
    rcases hserved with ⟨-, hp⟩ | @⟨head, chunks, hf, -⟩ | ⟨-, hclosed, -⟩
    · rw [hp] at ho
      cases ho
    · cases hx : x.isLast with
      | true =>
        rw [hx] at hopen
        exact .ended hf hopen hx
      | false =>
        rw [hx] at hopen
        cases x with
        | chunk bytes =>
          rw [show chunks.map Put.chunk ++ [.chunk bytes] = (chunks ++ [bytes]).map .chunk by simp]
          exact .sending hf hopen
        | finish | fail _ => cases hx
    · rw [ho] at hclosed
      cases hclosed
  · change taken ++ (w.payload.put x).items = _
    rw [Payload.items_put, ← List.append_assoc, hfifo, List.filterMap_append]
    cases x <;> rfl

/-- A step of the peer adds what it told the write to the history. -/
theorem peerStep {c : Channel} {i : Nat} {s : Channel.PeerStep} (h : Carried w rs ps taken)
    (hs : c.WriteStep i w s w') : Carried w' (rs ++ c.replies i s) (ps ++ c.puts i s) taken := by
  rcases hs with ⟨hr, hp⟩ | ⟨hr, hp, hbefore, hf⟩ | @⟨head, hr, hp, hbefore⟩ | ⟨hr, hp, ho⟩
  · rw [hr, hp, List.append_nil, List.append_nil]
    exact h
  · have hun (head : Head) : w.fate ≠ .answered head := by
      rcases hbefore with hq | ht
      · rw [hq]
        simp
      · rw [ht]
        simp
    obtain ⟨rfl, rfl, rfl, hpayload⟩ := h.of_unanswered hun
    rw [hr, hp]
    exact ⟨.unanswered hf hpayload, by simp [hpayload]⟩
  · obtain ⟨rfl, rfl, rfl, -⟩ := h.of_unanswered (by simp [hbefore])
    rw [hr]
    rcases hp with hp | ⟨body, hp⟩
    · rw [hp]
      exact ⟨@Served.sending _ head [] rfl rfl, rfl⟩
    · rw [hp]
      exact ⟨@Served.ended _ head [body] .finish rfl rfl rfl, rfl⟩
  · rw [hr, hp, List.append_nil]
    exact h.put ho _

/-- A look at the payload adds what it takes out. -/
theorem next (h : Carried w rs ps taken) :
    Carried { w with payload := w.payload.next.2 } rs ps
      (taken ++ w.payload.next.1.item?.toList) := by
  obtain ⟨hserved, hfifo⟩ := h
  have hopen := w.payload.isOpen_next
  refine ⟨?_, ?_⟩
  · rcases hserved with ⟨hf, hp⟩ | ⟨hf, ho⟩ | ⟨hf, ho, hx⟩
    · exact .unanswered hf (by rw [hp]; rfl)
    · exact .sending hf (hopen.trans ho)
    · exact .ended hf (hopen.trans ho) hx
  · rw [List.append_assoc, Payload.item_next, hfifo]

/-- A write that was answered was answered once, with this head. -/
theorem replies_eq (h : Carried w rs ps taken) {head : Head} (hf : w.fate = .answered head) :
    rs = [(w.request, head)] := by
  rcases h.served with ⟨hun, -⟩ | ⟨hf', -⟩ | ⟨hf', -, -⟩
  · exact absurd hf (hun head)
  · cases hf.symm.trans hf'
    rfl
  · cases hf.symm.trans hf'
    rfl

/-- The chunks that were taken out are the first of those handed in. -/
theorem prefix_of_chunks (h : Carried w rs ps taken) :
    taken <+: ps.filterMap Put.item? := ⟨w.payload.items, h.fifo⟩

/-- A payload that has come to its end and whose items were all chunks was finished: these chunks
were handed in, and then nothing but its end. -/
theorem puts_eq_of_end (h : Carried w rs ps taken) {head : Head} (hf : w.fate = .answered head)
    (hend : w.payload.next.1 = .ended) {chunks : List Bytes} (ht : taken = chunks.map .ok) :
    ps = chunks.map .chunk ++ [.finish] := by
  obtain ⟨hitems, hclosed⟩ := Payload.next_eq_ended_iff.mp hend
  have hfifo := h.fifo
  rw [hitems, List.append_nil, ht] at hfifo
  rcases h.served with ⟨hun, -⟩ | ⟨-, ho⟩ | @⟨_, chunks', x, -, -, hx⟩
  · exact absurd hf (hun head)
  · rw [ho] at hclosed
    cases hclosed
  · have hsent : (chunks'.map Put.chunk).filterMap Put.item? = chunks'.map Except.ok := by
      rw [List.filterMap_map]
      exact congrFun (List.filterMap_eq_map (f := Except.ok)) chunks'
    rw [List.filterMap_append, hsent] at hfifo
    cases x with
    | chunk _ => cases hx
    | finish =>
      rw [show [Put.finish].filterMap Put.item? = [] from rfl, List.append_nil] at hfifo
      rw [(List.map_inj_right fun _ _ h ↦ Except.ok.inj h).mp hfifo]
    | fail e =>
      -- The failure would be the last item that was taken out.
      have hmem : (Except.error e : Except TransportError Bytes) ∈ chunks.map Except.ok := by
        rw [hfifo]
        simp [Put.item?]
      simp at hmem

end Carried

end BoundedPipelining
