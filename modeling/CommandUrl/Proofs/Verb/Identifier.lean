import CommandUrl.Host.Catalogue
import CommandUrl.Proofs.Text.Lowering
import CommandUrl.Proofs.Verb.Turn

/-!
# Identifiers of notes

The common form of a name is a name in its common form: taking it once more changes
nothing. So a label may be given in its common form and means the same label, and a
note that is opened by the path of its file is asked for by an identifier which is
matched as it stands.
-/

namespace CommandUrl

section Strings

variable {text : String}

theorem toList_commonForm (text : String) : (commonForm text).toList = Text.commonForm text.toList :=
  String.toList_ofList

theorem commonForm_commonForm (text : String) : commonForm (commonForm text) = commonForm text := by
  apply String.toList_injective
  simp only [toList_commonForm, Text.commonForm_commonForm]

theorem Schema.declared?_commonForm (schema : Schema) (label : String) :
    schema.declared? (commonForm label) = schema.declared? label := by
  simp only [Schema.declared?, commonForm_commonForm]

end Strings

/-- Where the request names a note by its identifier, the identifier is in its common form. -/
def Request.Canonical : Request → Prop
  | noteForId _ id => commonForm id = id
  | _ => True

theorem Request.canonical_of_isLookup {request : Request} (lookup : request.isLookup) :
    request.Canonical := by
  cases request with
  | noteForId window id => cases lookup
  | _ => trivial

namespace Verb

variable {σ : Type} {host : Host σ}

theorem openNotePath_canonical (path : String) (history : List Exchange) (context : Context) :
    Handling.Follows host (fun _ request => request.Canonical) (fun _ _ _ => True)
      (fun _ _ _ => True) history context (openNotePath host path) := by
  apply Handling.Follows.files_bind
  intro tree
  dsimp only
  split
  · exact .throw_bind trivial
  · split
    · exact .throw trivial
    · apply Handling.Follows.establish_bind
      · intro _ _ lookup
        exact Request.canonical_of_isLookup lookup
      · intros
        trivial
      · intros
        trivial
      · intros
        trivial
      · intro sought link window lookups
        apply Handling.Follows.ask_bind
        · exact commonForm_commonForm _
        · intro found
          apply Handling.Follows.focusFound
          · intros
            trivial
          · intros
            trivial
          · intros
            trivial

theorem canonical_of_mem_turn (standing : Standing σ) (path : String) {exchange : Exchange}
    (mem : exchange ∈ (openNote.turn host standing ⟨"notepath", path⟩).said) :
    exchange.request.Canonical := by
  have follows : Handling.Follows host (fun _ request => request.Canonical) (fun _ _ _ => True)
      (fun _ _ _ => True) [] standing.context
      ((openNote.procedure host).parameter ⟨"notepath", path⟩) :=
    openNotePath_canonical path [] standing.context
  rcases turn_cases follows with ⟨kept, _⟩
  rcases List.append_of_mem mem with ⟨before, after, split⟩
  exact kept before exchange after split

end Verb

/-- A common form consists of letters and numbers, lowering does not change it, and it is its own
common form. So it stands for the same label as the name it was taken of, and the identifier of a
note that is opened by its path is its own common form too. -/
theorem commonForm_canonical (text : String) :
    commonForm (commonForm text) = commonForm text ∧
    (∀ c ∈ (commonForm text).toList, Text.isLetterOrNumber c) ∧
    Text.lower (commonForm text).toList = (commonForm text).toList ∧
    (∀ schema : Schema, schema.declared? (commonForm text) = schema.declared? text) ∧
    ∀ (σ : Type) (host : Host σ) (standing : Standing σ), ∀ exchange ∈
      (Verb.openNote.turn host standing ⟨"notepath", text⟩).said, ∀ window id,
        exchange.request = .noteForId window id → commonForm id = id := by
  refine ⟨commonForm_commonForm text, ?_, ?_, ?_, ?_⟩
  · intro c mem
    rw [toList_commonForm] at mem
    exact Text.isLetterOrNumber_of_mem_commonForm mem
  · rw [toList_commonForm, Text.lower_commonForm]
  · intro schema
    exact schema.declared?_commonForm text
  · intro σ host standing exchange mem window id asked
    have canonical := Verb.canonical_of_mem_turn standing text mem
    rw [asked] at canonical
    exact canonical

/-- A sigma that ends a word stays final where the identifier has nothing left that ends a word, and
the dot of a capital I is gone for good. -/
theorem commonForm_canonical_final :
    let state : CatalogueState :=
      { catalogue := {}, preferences := {}, lastSelected := none,
        tree := ((FileTree.ofWorking []).put ["work".toList] .directory).put
          ["ΑΣ-İ.txt".toList, "work".toList] (.file []) }
    let standing : Standing CatalogueState :=
      { context := {}, report := { alerting := false }, conversation := { state } }
    let link : Link := ⟨"file://work", "work", .folder⟩
    ((Verb.openNote.turn catalogueHost standing ⟨"notepath", "work/ΑΣ-İ.txt"⟩).said.map
      Exchange.request).getLast? = some (.noteForId ⟨1, link⟩ "αςi") ∧
      commonForm "αςi" = "αςi" := by
  intro state standing link
  have asked : ((Verb.openNote.turn catalogueHost standing ⟨"notepath", "work/ΑΣ-İ.txt"⟩).said.map
      Exchange.request).getLast? = some (.noteForId ⟨1, link⟩ "αςi") := by
    decide +kernel
  refine ⟨asked, ?_⟩
  rcases List.mem_map.mp (List.mem_of_getLast? asked) with ⟨exchange, mem, request⟩
  rcases commonForm_canonical "work/ΑΣ-İ.txt" with ⟨_, _, _, _, canonical⟩
  exact canonical CatalogueState catalogueHost standing exchange mem ⟨1, link⟩ "αςi" request

end CommandUrl
