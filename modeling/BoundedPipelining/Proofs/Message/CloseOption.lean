import BoundedPipelining.Message.Head
import BoundedPipelining.Proofs.Text.Separated

/-!
# Which heads ask for a close

`Head.wantsClose` computes with filters, cuts and trims. `Field.SaysClose` says what it looks for: a
value that is text, and in it a stretch between commas that is the word `close` once the blanks
around it are left out. A head asks for a close exactly if some field called `connection` says so.

That is a statement about which fields there are, so the order of the fields does not matter, fields
of other names do not matter, and more fields never take the wish back. It is also a statement about
stretches between commas, and joining values with commas makes no new stretches and loses none; what
would be lost is a value that is no text, which is passed over alone but would spoil a joined value.
-/

namespace BoundedPipelining

/-! ## Blanks around an element -/

theorem isPadding_iff {c : Char} : isPadding c = true ↔ c = ' ' ∨ c = '\t' := by
  rw [isPadding, Bool.or_eq_true, beq_iff_eq, beq_iff_eq]

theorem toLower_of_isPadding {c : Char} (h : isPadding c = true) : c.toLower = c := by
  rcases isPadding_iff.mp h with rfl | rfl <;> rfl

theorem exists_eq_append_stripPadding (s : List Char) : ∃ front back,
    s = front ++ stripPadding s ++ back ∧ ∀ c ∈ front ++ back, isPadding c = true := by
  refine ⟨s.takeWhile isPadding,
    ((s.dropWhile isPadding).reverse.takeWhile isPadding).reverse, ?_, ?_⟩
  · rw [stripPadding, List.append_assoc, ← List.reverse_append, List.takeWhile_append_dropWhile,
      List.reverse_reverse, List.takeWhile_append_dropWhile]
  · intro c hc
    rw [List.mem_append, List.mem_reverse] at hc
    rcases hc with hfront | hback
    · exact List.all_eq_true.mp List.all_takeWhile c hfront
    · exact List.all_eq_true.mp List.all_takeWhile c hback

private theorem dropWhile_padding {front w : List Char} (hfront : ∀ c ∈ front, isPadding c = true)
    (hw : ∀ c ∈ w, isPadding c = false) (hne : w ≠ []) (back : List Char) :
    (front ++ (w ++ back)).dropWhile isPadding = w ++ back := by
  obtain ⟨x, r, rfl⟩ := List.exists_cons_of_ne_nil hne
  rw [List.dropWhile_append_of_pos hfront, List.cons_append, List.dropWhile_cons_of_neg]
  rw [hw x List.mem_cons_self]
  exact Bool.false_ne_true

/-- Whatever blanks stand around a word without blanks, it is what is left without them. -/
theorem stripPadding_eq {front w back : List Char}
    (hpadding : ∀ c ∈ front ++ back, isPadding c = true) (hw : ∀ c ∈ w, isPadding c = false)
    (hne : w ≠ []) : stripPadding (front ++ w ++ back) = w := by
  have hfront : ∀ c ∈ front, isPadding c = true := fun c hc ↦
    hpadding c (List.mem_append_left back hc)
  have hback : ∀ c ∈ back.reverse, isPadding c = true := fun c hc ↦
    hpadding c (List.mem_append_right front (List.mem_reverse.mp hc))
  have hw' : ∀ c ∈ w.reverse, isPadding c = false := fun c hc ↦ hw c (List.mem_reverse.mp hc)
  have hreverse := dropWhile_padding hback hw' (List.reverse_ne_nil_iff.mpr hne) []
  rw [List.append_nil] at hreverse
  rw [stripPadding, List.append_assoc, dropWhile_padding hfront hw hne back, List.reverse_append,
    hreverse, List.reverse_reverse]

/-! ## What a field says -/

namespace Field

/-- A field called `connection`, in any letter case. -/
def IsConnection (f : Field) : Prop :=
  f.name.toLower = "connection"

/-- A value of tabs and printable ASCII alone. -/
def IsText (f : Field) : Prop :=
  ∀ b ∈ f.value, b = 9 ∨ (0x20 ≤ b ∧ b ≤ 0x7e)

/-- The bytes of a value as characters. -/
def characters (f : Field) : List Char :=
  f.value.map fun b ↦ Char.ofNat b.toNat

/-- The value is text, and a stretch of it between commas is the word `close`, in any letter case,
with nothing but spaces and tabs around it. -/
def SaysClose (f : Field) : Prop :=
  f.IsText ∧ ∃ front word back, Pieces.IsPiece ',' f.characters (front ++ word ++ back) ∧
    (∀ c ∈ front ++ back, c = ' ' ∨ c = '\t') ∧ word.map Char.toLower = "close".toList

variable {f : Field}

theorem isTextByte_iff {b : UInt8} : isTextByte b = true ↔ b = 9 ∨ (0x20 ≤ b ∧ b ≤ 0x7e) := by
  rw [isTextByte, Bool.or_eq_true, beq_iff_eq, Bool.and_eq_true, decide_eq_true_iff,
    decide_eq_true_iff]

theorem isText_iff : f.IsText ↔ f.value.all isTextByte = true := by
  simp only [IsText, List.all_eq_true, isTextByte_iff]

theorem text?_of_isText (h : f.IsText) : f.text? = some f.characters := by
  rw [text?, if_pos (isText_iff.mp h)]
  rfl

theorem text?_of_not_isText (h : ¬ f.IsText) : f.text? = none := by
  rw [text?, if_neg fun hall ↦ h (isText_iff.mpr hall)]

end Field

namespace Head

variable {h h' : Head} {f : Field}

/-- The word itself has no blanks. -/
private theorem not_isPadding_of_close {word : List Char}
    (h : word.map Char.toLower = "close".toList) : ∀ c ∈ word, isPadding c = false := by
  intro c hc
  rw [← Bool.not_eq_true]
  intro hpadding
  have hlower : c.toLower ∈ "close".toList := h ▸ List.mem_map_of_mem hc
  rw [toLower_of_isPadding hpadding] at hlower
  rcases isPadding_iff.mp hpadding with rfl | rfl <;> exact absurd hlower (by decide)

/-- An element is `close` without the blanks around it exactly if it is `close` with blanks around
it. -/
private theorem stripPadding_close_iff {e : List Char} :
    (stripPadding e).map Char.toLower = "close".toList ↔ ∃ front word back,
      e = front ++ word ++ back ∧ (∀ c ∈ front ++ back, c = ' ' ∨ c = '\t') ∧
        word.map Char.toLower = "close".toList := by
  constructor
  · intro hclose
    obtain ⟨front, back, he, hpadding⟩ := exists_eq_append_stripPadding e
    exact ⟨front, stripPadding e, back, he, fun c hc ↦ isPadding_iff.mp (hpadding c hc), hclose⟩
  · rintro ⟨front, word, back, rfl, hpadding, hclose⟩
    have hne : word ≠ [] := by
      rintro rfl
      exact absurd hclose (by decide)
    rw [stripPadding_eq (fun c hc ↦ isPadding_iff.mpr (hpadding c hc))
      (not_isPadding_of_close hclose) hne]
    exact hclose

theorem listsClose_iff {text : List Char} : listsClose text = true ↔ ∃ front word back,
    Pieces.IsPiece ',' text (front ++ word ++ back) ∧ (∀ c ∈ front ++ back, c = ' ' ∨ c = '\t') ∧
      word.map Char.toLower = "close".toList := by
  rw [listsClose, List.any_eq_true]
  constructor
  · rintro ⟨e, he, hclose⟩
    rw [beq_iff_eq] at hclose
    obtain ⟨front, word, back, rfl, hpadding, hword⟩ := stripPadding_close_iff.mp hclose
    exact ⟨front, word, back, Pieces.mem_split_iff.mp he, hpadding, hword⟩
  · rintro ⟨front, word, back, hpiece, hpadding, hword⟩
    refine ⟨_, Pieces.mem_split_iff.mpr hpiece, ?_⟩
    rw [beq_iff_eq]
    exact stripPadding_close_iff.mpr ⟨front, word, back, rfl, hpadding, hword⟩

theorem any_listsClose_iff : f.text?.any listsClose = true ↔ f.SaysClose := by
  by_cases htext : f.IsText
  · rw [Field.text?_of_isText htext, Option.any_some, listsClose_iff]
    exact ⟨fun hclose ↦ ⟨htext, hclose⟩, fun hclose ↦ hclose.2⟩
  · rw [Field.text?_of_not_isText htext, Option.any_none]
    exact iff_of_false Bool.false_ne_true fun hclose ↦ htext hclose.1

theorem mem_connectionFields : f ∈ h.connectionFields ↔ f ∈ h.fields ∧ f.IsConnection := by
  rw [connectionFields, List.mem_filter, beq_iff_eq, Field.IsConnection]

theorem wantsClose_eq_true_iff :
    h.wantsClose = true ↔ ∃ f ∈ h.fields, f.IsConnection ∧ f.SaysClose := by
  simp only [wantsClose, List.any_eq_true, mem_connectionFields, any_listsClose_iff, and_assoc]

/-- A wish for a close stays with more fields. -/
theorem wantsClose_mono (hsub : h.fields ⊆ h'.fields) (hclose : h.wantsClose = true) :
    h'.wantsClose = true := by
  obtain ⟨f, hf, hconnection, hsays⟩ := wantsClose_eq_true_iff.mp hclose
  exact wantsClose_eq_true_iff.mpr ⟨f, hsub hf, hconnection, hsays⟩

/-! ## Joined values -/

/-- All values of the fields called `connection`, with commas between them. -/
def joinedValue (h : Head) : Bytes :=
  [0x2c].intercalate (h.connectionFields.map Field.value)

private theorem map_intercalate {α β : Type} (g : α → β) (x : α) (ls : List (List α)) :
    ([x].intercalate ls).map g = [g x].intercalate (ls.map (List.map g)) := by
  induction ls with
  | nil => rfl
  | cons l rest ih =>
    by_cases hrest : rest = []
    · rw [hrest, List.intercalate_singleton, List.map_singleton, List.intercalate_singleton]
    · rw [List.intercalate_cons_of_ne_nil hrest, List.map_cons,
        List.intercalate_cons_of_ne_nil (mt List.map_eq_nil_iff.mp hrest), List.map_append,
        List.map_append, ih, List.map_singleton]

private theorem forall_mem_intercalate {α : Type} {P : α → Prop} {x : α} {ls : List (List α)}
    (hx : P x) (h : ∀ l ∈ ls, ∀ a ∈ l, P a) : ∀ a ∈ [x].intercalate ls, P a := by
  induction ls with
  | nil => simp
  | cons l rest ih =>
    rw [List.forall_mem_cons] at h
    by_cases hrest : rest = []
    · rw [hrest, List.intercalate_singleton]
      exact h.1
    · rw [List.intercalate_cons_of_ne_nil hrest, List.forall_mem_append, List.forall_mem_append]
      exact ⟨⟨h.1, List.forall_mem_singleton.mpr hx⟩, ih h.2⟩

/-- Values that are text make a joined value that is text, because the comma is text. -/
theorem isText_joinedValue (htext : ∀ f ∈ h.connectionFields, f.IsText) (name : String) :
    Field.IsText ⟨name, h.joinedValue⟩ := by
  refine forall_mem_intercalate (Or.inr (by decide)) ?_
  intro value hvalue b hb
  obtain ⟨f, hf, rfl⟩ := List.mem_map.mp hvalue
  exact htext f hf b hb

theorem characters_joinedValue (name : String) :
    Field.characters ⟨name, h.joinedValue⟩
      = [','].intercalate (h.connectionFields.map Field.characters) := by
  rw [Field.characters, joinedValue, map_intercalate, List.map_map]
  rfl

/-- Texts with commas between them list a close exactly if one of them does. -/
theorem listsClose_intercalate (texts : List (List Char)) :
    listsClose ([','].intercalate texts) = texts.any listsClose := by
  by_cases hne : texts = []
  · subst hne
    decide
  · rw [listsClose, Pieces.split_intercalate hne, List.any_flatMap]
    rfl

theorem wantsClose_of_isText (htext : ∀ f ∈ h.connectionFields, f.IsText) :
    h.wantsClose = (h.connectionFields.map Field.characters).any listsClose := by
  rw [wantsClose, List.any_map, Bool.eq_iff_iff, List.any_eq_true, List.any_eq_true]
  refine exists_congr fun f ↦ and_congr_right fun hf ↦ ?_
  rw [Field.text?_of_isText (htext f hf), Option.any_some, Function.comp_apply]

theorem wantsClose_singleton {name : String} (hname : name.toLower = "connection") (status : Nat)
    {value : Bytes} (htext : Field.IsText ⟨name, value⟩) :
    wantsClose ⟨status, [⟨name, value⟩]⟩ = listsClose (Field.characters ⟨name, value⟩) := by
  have hconnection : connectionFields ⟨status, [⟨name, value⟩]⟩ = [⟨name, value⟩] :=
    List.filter_cons_of_pos (beq_iff_eq.mpr hname)
  rw [wantsClose, hconnection, List.any_cons, List.any_nil, Bool.or_false,
    Field.text?_of_isText htext, Option.any_some]

/-! ## The rule -/

/-- **Which heads ask for a close.** Those in which a field called `connection` says so. So the
order of the fields does not matter, nor do fields of other names; more fields never take the wish
back; and the values of all fields called `connection`, if they are text, may as well stand in a
single field with commas between them. -/
theorem wantsClose_exact (h : Head) :
    (h.wantsClose = true ↔ ∃ f ∈ h.fields, f.IsConnection ∧ f.SaysClose) ∧
    (∀ h' : Head, h'.fields.Perm h.fields → h'.wantsClose = h.wantsClose) ∧
    (∀ (f : Field) (front back : List Field), ¬ f.IsConnection → h.fields = front ++ back →
      wantsClose { h with fields := front ++ f :: back } = h.wantsClose) ∧
    (∀ h' : Head, h.fields ⊆ h'.fields → h.wantsClose = true → h'.wantsClose = true) ∧
    ((∀ f ∈ h.fields, f.IsConnection → f.IsText) → ∀ name : String, name.toLower = "connection" →
      wantsClose { h with fields := [⟨name, h.joinedValue⟩] } = h.wantsClose) := by
  refine ⟨wantsClose_eq_true_iff, ?_, ?_, fun h' ↦ wantsClose_mono, ?_⟩
  · intro h' hperm
    rw [Bool.eq_iff_iff]
    exact ⟨wantsClose_mono hperm.subset, wantsClose_mono hperm.symm.subset⟩
  · intro f front back hother hfields
    have hpassed : connectionFields ⟨h.status, f :: back⟩ = connectionFields ⟨h.status, back⟩ :=
      List.filter_cons_of_neg fun heq ↦ hother (beq_iff_eq.mp heq)
    have hfilter : connectionFields ⟨h.status, front ++ f :: back⟩ = h.connectionFields := by
      rw [connectionFields] at hpassed ⊢
      rw [List.filter_append, hpassed, connectionFields, connectionFields, hfields,
        List.filter_append]
    rw [wantsClose, hfilter, wantsClose]
  · intro hall name hname
    have htext : ∀ f ∈ h.connectionFields, f.IsText := by
      intro f hf
      obtain ⟨hmem, hconnection⟩ := mem_connectionFields.mp hf
      exact hall f hmem hconnection
    calc wantsClose ⟨h.status, [⟨name, h.joinedValue⟩]⟩
        = listsClose (Field.characters ⟨name, h.joinedValue⟩) :=
          wantsClose_singleton hname h.status (isText_joinedValue htext name)
      _ = (h.connectionFields.map Field.characters).any listsClose := by
          rw [characters_joinedValue, listsClose_intercalate]
      _ = h.wantsClose := (wantsClose_of_isText htext).symm

/-- A field with a stray comma, a field of another name that is no text, and a field that says so in
between: the wish is found, whatever the order, and also once the values are joined. -/
theorem wantsClose_exact_of_two :
    let value (s : String) : Bytes := s.toList.map fun c ↦ UInt8.ofNat c.toNat
    let h : Head := { fields := [⟨"Connection", value "keep-alive,"⟩, ⟨"Server", [0xff]⟩,
      ⟨"CONNECTION", value "\t Close ,upgrade"⟩] }
    h.wantsClose = true ∧ wantsClose { h with fields := h.fields.reverse } = true ∧
      wantsClose { h with fields := [⟨"connection", h.joinedValue⟩] } = true := by
  intro value h
  obtain ⟨-, hperm, -, -, hjoined⟩ := h.wantsClose_exact
  have hwants : h.wantsClose = true := by decide +kernel
  refine ⟨hwants, ?_, ?_⟩
  · rw [hperm { h with fields := h.fields.reverse } (List.reverse_perm h.fields)]
    exact hwants
  · rw [hjoined ?_ "connection" (by decide +kernel)]
    · exact hwants
    · intro f hf hconnection
      have htext : (h.fields.all fun f ↦
          f.name.toLower != "connection" || f.value.all Field.isTextByte) = true := by
        decide +kernel
      have hthis := List.all_eq_true.mp htext f hf
      rw [Bool.or_eq_true, bne_iff_ne] at hthis
      rcases hthis with hother | hbytes
      · exact absurd hconnection hother
      · exact Field.isText_iff.mpr hbytes

end Head

end BoundedPipelining
