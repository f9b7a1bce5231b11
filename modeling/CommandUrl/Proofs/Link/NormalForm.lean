import CommandUrl.Locator
import Mathlib.Data.List.Basic

/-!
# The normal form of a link

A text becomes a link by the path that it spells: one marker is taken away if the
text starts with one, what is left is the path, and only white space is no path. The
address of a link is the marker and the path. So it spells the path too, and it is the
normal form among all the texts of the link: every other one is brought to it.

Addresses and paths determine each other, whatever the path is, and what knows a link
by its address agrees with what knows it by its path. The path by itself is less than
that. It is a text of the link unless it has a marker in front, which is left there
when the text had several.
-/

namespace CommandUrl

namespace Text

/-- The codes of the characters that are white space in Unicode. -/
def whiteSpace : List Nat :=
  [0x09, 0x0A, 0x0B, 0x0C, 0x0D, 0x20, 0x85, 0xA0, 0x1680, 0x2000, 0x2001, 0x2002, 0x2003, 0x2004,
    0x2005, 0x2006, 0x2007, 0x2008, 0x2009, 0x200A, 0x2028, 0x2029, 0x202F, 0x205F, 0x3000]

theorem isBlankChar_iff {c : Char} : isBlankChar c ↔ c.toNat ∈ whiteSpace := by
  simp only [isBlankChar, whiteSpace, Bool.or_eq_true, Bool.and_eq_true, decide_eq_true_eq,
    List.mem_cons, List.not_mem_nil, or_false]
  omega

theorem isBlank_iff {text : List Char} : isBlank text ↔ ∀ c ∈ text, c.toNat ∈ whiteSpace := by
  simp only [isBlank, List.all_eq_true, isBlankChar_iff]

end Text

namespace Link

variable {text path : String} {link : Link}

/-- The text is the path with the marker in front, or it is the path and starts with no marker. -/
def Spells (text path : String) : Prop :=
  text = marker ++ path ∨ text = path ∧ ¬ marker.toList <+: text.toList

theorem withoutMarker_cases (text : String) : Spells text (withoutMarker text) := by
  unfold withoutMarker
  split
  · next bare marked =>
      left
      have split : marker.toList ++ bare = text.toList := by
        simpa using List.isPrefixOf?_eq_some_iff_append_eq.mp marked
      apply String.toList_injective
      simp [split]
  · next unmarked =>
      right
      refine ⟨rfl, ?_⟩
      rintro ⟨bare, split⟩
      have marked := List.isPrefixOf?_eq_some_iff_append_eq.mpr split
      simp [unmarked] at marked

theorem starts_with_marker (path : String) : marker.toList <+: (marker ++ path).toList :=
  ⟨path.toList, String.toList_append.symm⟩

/-- A text spells one path and no other. -/
theorem spells_iff : Spells text path ↔ withoutMarker text = path := by
  have whole := withoutMarker_cases text
  constructor
  · rintro (rfl | ⟨rfl, unmarked⟩)
    · rcases whole with longer | ⟨_, unmarked⟩
      · exact ((String.append_right_inj marker).mp longer).symm
      · exact absurd (starts_with_marker path) unmarked
    · rcases whole with longer | ⟨same, _⟩
      · rw [longer] at unmarked
        exact absurd (starts_with_marker _) unmarked
      · exact same.symm
  · rintro rfl
    exact whole

theorem spells_marked (path : String) : Spells (marker ++ path) path :=
  Or.inl rfl

theorem spells_self_iff : Spells path path ↔ ¬ marker.toList <+: path.toList := by
  constructor
  · rintro (longer | ⟨_, unmarked⟩)
    · have length := congrArg String.length longer
      simp [marker] at length
    · exact unmarked
  · intro unmarked
    exact Or.inr ⟨rfl, unmarked⟩

theorem ofText?_of_blank (blank : Text.isBlank (withoutMarker text).toList) :
    ofText? text = none :=
  if_pos blank

theorem ofText?_of_not_blank (visible : Text.isBlank (withoutMarker text).toList = false) :
    ofText? text = some { url := marker ++ withoutMarker text, path := withoutMarker text } := by
  simp [ofText?, visible]

theorem ofText?_eq_some_iff :
    ofText? text = some link ↔
      ∃ path, Spells text path ∧ Text.isBlank path.toList = false ∧
        link = { url := marker ++ path, path } := by
  simp only [spells_iff, exists_eq_left']
  cases visible : Text.isBlank (withoutMarker text).toList with
  | true => simp [ofText?_of_blank visible]
  | false => simp [ofText?_of_not_blank visible, eq_comm]

theorem ofText?_eq_none_iff :
    ofText? text = none ↔ ∃ path, Spells text path ∧ Text.isBlank path.toList := by
  simp only [spells_iff, exists_eq_left']
  cases visible : Text.isBlank (withoutMarker text).toList with
  | true => simp [ofText?_of_blank visible]
  | false => simp [ofText?_of_not_blank visible]

theorem path_of_ofText? (led : ofText? text = some link) : link.path = withoutMarker text := by
  rcases ofText?_eq_some_iff.mp led with ⟨path, spells, _, rfl⟩
  exact (spells_iff.mp spells).symm

/-- The address of the link is the marker and its path. -/
def Marked (link : Link) : Prop :=
  link.url = marker ++ link.path

theorem marked_of_ofText? (led : ofText? text = some link) : link.Marked := by
  rcases ofText?_eq_some_iff.mp led with ⟨path, _, _, rfl⟩
  rfl

theorem Marked.url_eq_iff {other : Link} (marked : link.Marked) (otherMarked : other.Marked) :
    link.url = other.url ↔ link.path = other.path := by
  unfold Marked at marked otherMarked
  rw [marked, otherMarked, String.append_right_inj]

theorem ofText?_marked (visible : Text.isBlank path.toList = false) :
    ofText? (marker ++ path) = some { url := marker ++ path, path } :=
  ofText?_eq_some_iff.mpr ⟨path, spells_marked path, visible, rfl⟩

/-- The address of a link is a text of the link. -/
theorem ofText?_url (led : ofText? text = some link) : ofText? link.url = some link := by
  rcases ofText?_eq_some_iff.mp led with ⟨path, _, visible, rfl⟩
  exact ofText?_marked visible

/-- The path of a link is a text of the link unless it has a marker of its own in front. -/
theorem ofText?_path_iff (visible : Text.isBlank path.toList = false) :
    ofText? path = some { url := marker ++ path, path } ↔ ¬ marker.toList <+: path.toList := by
  rw [← spells_self_iff, ofText?_eq_some_iff]
  constructor
  · rintro ⟨other, spells, _, same⟩
    have whole : path = other := congrArg Link.path same
    rw [← whole] at spells
    exact spells
  · intro spells
    exact ⟨path, spells, visible, rfl⟩

end Link

/-- The path of a locator makes the link of the path as a text, with the kind of thing that is
there. -/
theorem Locator.literalLink_eq {σ : Type} (host : Host σ) (text : String)
    (conversation : Conversation σ) :
    (literalLink host (some text) conversation).1 =
      (Link.ofText? text).map fun link =>
        { link with kind := (host.answer conversation.state (.classify link)).1 } := by
  simp only [literalLink, Option.bind_some]
  cases Link.ofText? text <;> rfl

namespace Link

/-- The address of a link is the marker and the path that the text spells, and it is itself a text of
the link. What is not blank is the path of a link in this way, and is a text of that link exactly if
it does not start with the marker. Two links have one address exactly if they have one path, and
only white space spells no link. Where the path of a locator is made into a link, the address and
the path are the same, whatever is there. -/
theorem ofText?_normal_form (text : String) :
    (∀ link, ofText? text = some link →
      Spells text link.path ∧ link.url = marker ++ link.path ∧ ofText? link.url = some link) ∧
    ((∃ c ∈ text.toList, c.toNat ∉ Text.whiteSpace) →
      ∃ link, ofText? (marker ++ text) = some link ∧ link.path = text ∧
        (ofText? text = some link ↔ ¬ marker.toList <+: text.toList)) ∧
    (∀ other link link', ofText? text = some link → ofText? other = some link' →
      (link.url = link'.url ↔ link.path = link'.path)) ∧
    (ofText? text = none ↔
      ∃ path, Spells text path ∧ ∀ c ∈ path.toList, c.toNat ∈ Text.whiteSpace) ∧
    ∀ (σ : Type) (host : Host σ) (conversation : Conversation σ),
      ((Locator.literalLink host (some text) conversation).1.map fun link => (link.url, link.path)) =
        (ofText? text).map fun link => (link.url, link.path) := by
  refine ⟨?_, ?_, ?_, ?_, ?_⟩
  · intro link led
    have spells : Spells text link.path := spells_iff.mpr (path_of_ofText? led).symm
    exact ⟨spells, marked_of_ofText? led, ofText?_url led⟩
  · rintro ⟨c, mem, shown⟩
    have visible : Text.isBlank text.toList = false := by
      rw [Bool.eq_false_iff]
      intro blank
      exact shown (Text.isBlank_iff.mp blank c mem)
    exact ⟨_, ofText?_marked visible, rfl, ofText?_path_iff visible⟩
  · intro other link link' led led'
    exact (marked_of_ofText? led).url_eq_iff (marked_of_ofText? led')
  · simp only [ofText?_eq_none_iff, Text.isBlank_iff]
  · intro σ host conversation
    rw [Locator.literalLink_eq, Option.map_map]
    rfl

/-- A second marker stays in the path, a part of a marker is no marker, and an em space after a
marker is no path. -/
theorem ofText?_normal_form_repeated :
    let twice : Link := ⟨"file://file:///a", "file:///a", .unknown⟩
    let partly : Link := ⟨"file://file:/ a", "file:/ a", .unknown⟩
    ofText? twice.url = some twice ∧ ofText? twice.path ≠ some twice ∧
      ofText? partly.url = some partly ∧ ofText? partly.path = some partly ∧
      twice.url ≠ partly.url ∧ ofText? "file://\u2003" = none := by
  intro twice partly
  have twiceRead : ofText? twice.url = some twice := by decide +kernel
  have partlyRead : ofText? partly.url = some partly := by decide +kernel
  rcases (ofText?_normal_form twice.path).2.1 ⟨'f', by decide, by decide⟩ with
    ⟨link, led, _, twicePath⟩
  cases led.symm.trans twiceRead
  rcases (ofText?_normal_form partly.path).2.1 ⟨'f', by decide, by decide⟩ with
    ⟨link, led, _, partlyPath⟩
  cases led.symm.trans partlyRead
  rcases ofText?_normal_form twice.url with ⟨_, _, same, _⟩
  rcases ofText?_normal_form "file://\u2003" with ⟨_, _, _, nothing, _⟩
  refine ⟨twiceRead, ?_, partlyRead, partlyPath.mpr (by decide), ?_, ?_⟩
  · intro read
    exact twicePath.mp read (by decide)
  · intro one
    exact absurd ((same partly.url twice partly twiceRead partlyRead).mp one) (by decide)
  · exact nothing.mpr ⟨"\u2003", spells_marked "\u2003", Text.isBlank_iff.mp rfl⟩

end Link

end CommandUrl
