import CommandUrl.Proofs.Address.Decorated
import CommandUrl.Proofs.Retry

/-!
# Commands and what stands around them

A command is its word and its query. Credentials, a port, a path and a fragment are
accepted and have no part in it: two addresses that differ in them only are the same
command, or are refused for the same reason. That is a statement about two readings,
and it holds because each of them is what the word and the query make.
-/

namespace CommandUrl.Command

open Address (Decoration PlainScheme PlainWord)

/-- A word that was found is judged by the scheme alone, and a refusal does not quote the text. -/
theorem ofAddress_of_word (raw expected : String) (scheme word query : List Char) :
    ofAddress raw expected { scheme, host := some word, query } =
      if String.ofList scheme = expected then
        .ok
          { scheme := String.ofList scheme, word := String.ofList word,
            parameters := Query.parameters query }
      else
        .error (.wrongScheme (String.ofList scheme)) := by
  by_cases same : String.ofList scheme = expected
  · simp [ofAddress, same, pure, Except.pure]
  · simp [ofAddress, same, bind, Except.bind, throw, throwThe, MonadExceptOf.throw]

section Around

variable {scheme word query expected : String} (decoration : Decoration)

/-- What is read of a decorated address is what its scheme, its word and its query make. -/
theorem parse_around (plainScheme : PlainScheme scheme.toList)
    (plainWord : PlainWord word.toList) (noHash : '#' ∉ query.toList)
    (ends : ∀ last, query.toList.getLast? = some last → 0x20 < last.toNat) :
    parse (String.ofList (decoration.around scheme.toList word.toList query.toList)) expected =
      if scheme = expected then
        .ok
          { scheme, word,
            parameters := Query.parameters
              (Percent.encode (Address.escapedInQuery .ordinary)
                (query.toList.filter (!Address.isIgnored ·))) }
      else
        .error (.wrongScheme scheme) := by
  have visible : ∀ last, query.toList.getLast? = some last → Address.isTrimmed last = false := by
    intro last final
    exact Address.isTrimmed_of_lt (ends last final)
  have read := Address.parse_around decoration plainScheme plainWord noHash visible
  rw [← String.toList_ofList (l := decoration.around _ _ _)] at read
  rw [parse_of_ok read, ofAddress_of_word, String.ofList_toList, String.ofList_toList]

/-- Credentials, a port, a path and a fragment have no part in a command, whichever of them are
there and whatever delimiters are in them: the parameters are those of the text between the
question mark and the number sign. -/
theorem parse_ignores_decoration (plainScheme : PlainScheme scheme.toList)
    (plainWord : PlainWord word.toList) (noHash : '#' ∉ query.toList)
    (ends : ∀ last, query.toList.getLast? = some last → 0x20 < last.toNat) :
    parse (String.ofList (decoration.around scheme.toList word.toList query.toList)) expected =
        parse (scheme ++ "://" ++ word ++ "?" ++ query) expected ∧
      parse (String.ofList (decoration.around scheme.toList word.toList query.toList)) scheme =
        .ok
          { scheme, word,
            parameters := Query.parameters
              (Percent.encode (Address.escapedInQuery .ordinary)
                (query.toList.filter (!Address.isIgnored ·))) } := by
  have bare : scheme ++ "://" ++ word ++ "?" ++ query =
      String.ofList (Decoration.none.around scheme.toList word.toList query.toList) := by
    apply String.toList_injective
    simp [Decoration.around, Decoration.none]
  constructor
  · rw [bare, parse_around decoration plainScheme plainWord noHash ends,
      parse_around .none plainScheme plainWord noHash ends]
  · rw [parse_around decoration plainScheme plainWord noHash ends, if_pos rfl]

end Around

/-- Credentials with at signs and colons, and a path and a fragment that look like more of them. -/
theorem parse_ignores_decoration_signs :
    parse "notenik://me@home:secret@add:80/a@b:c?title=x@y:z/w#?title=t@u:v" "notenik" =
        parse "notenik://add?title=x@y:z/w" "notenik" ∧
      parse "notenik://me@home:secret@add:80/a@b:c?title=x@y:z/w#?title=t@u:v" "notenik" =
        .ok { scheme := "notenik", word := "add", parameters := [⟨"title", "x@y:z/w"⟩] } := by
  have inUser : ∀ c ∈ "me@home:secret".toList, c ≠ '/' ∧ c ≠ '?' ∧ c ≠ '#' := by simp
  have inPath : ∀ c ∈ "a@b:c".toList, c ≠ '?' ∧ c ≠ '#' := by simp
  let decoration : Decoration :=
    { credentials := "me@home:secret".toList ++ ['@']
      port := ':' :: "80".toList
      path := '/' :: "a@b:c".toList
      fragment := '#' :: "?title=t@u:v".toList
      credited := .given inUser
      ported := .digits (List.all_eq_true.mp rfl) (by decide)
      pathed := .given inPath
      fragmented := .given _ }
  have scheme : PlainScheme "notenik".toList :=
    ⟨⟨'n', "otenik".toList, rfl, by decide, by decide⟩, List.all_eq_true.mp rfl, rfl⟩
  have word : PlainWord "add".toList := ⟨by decide, List.all_eq_true.mp rfl⟩
  have noHash : '#' ∉ "title=x@y:z/w".toList := by decide
  have decorated : "notenik://me@home:secret@add:80/a@b:c?title=x@y:z/w#?title=t@u:v" =
      String.ofList (decoration.around "notenik".toList "add".toList "title=x@y:z/w".toList) := rfl
  have bare : "notenik://add?title=x@y:z/w" =
      "notenik" ++ "://" ++ "add" ++ "?" ++ "title=x@y:z/w" := rfl
  have parameters : [⟨"title", "x@y:z/w"⟩] = Query.parameters
      (Percent.encode (Address.escapedInQuery .ordinary)
        ("title=x@y:z/w".toList.filter (!Address.isIgnored ·))) := rfl
  rw [decorated, bare, parameters]
  exact parse_ignores_decoration decoration scheme word noHash (by rintro last ⟨⟩; decide)

end CommandUrl.Command
