import CommandUrl.Proofs.Address.Escaped

/-!
# Addresses with more than a word and a query

Around its word an address may have credentials, a port, a path and a fragment. The
word and the query are found among them because each part ends at a delimiter that
cannot occur in the part before it: the authority at the first slash or question
mark, the credentials at the last at sign of the authority, the path at the first
question mark, the query at the first number sign. What is in a later part is not
looked at before the part is reached, so a delimiter there does no harm.
-/

namespace CommandUrl.Address

/-- What may stand before a host: nothing, or credentials and an at sign. -/
inductive CredentialsPart : List Char → Prop where
  | absent : CredentialsPart []
  | given {user : List Char} (inside : ∀ c ∈ user, c ≠ '/' ∧ c ≠ '?' ∧ c ≠ '#') :
      CredentialsPart (user ++ ['@'])

/-- What may stand before a query: nothing, or a path. -/
inductive PathPart : List Char → Prop where
  | absent : PathPart []
  | given {path : List Char} (inside : ∀ c ∈ path, c ≠ '?' ∧ c ≠ '#') : PathPart ('/' :: path)

/-- What may stand after a query: nothing, or a number sign and anything. -/
inductive FragmentPart : List Char → Prop where
  | absent : FragmentPart []
  | given (text : List Char) : FragmentPart ('#' :: text)

/-- The parts of an address that a command does not use. -/
structure Decoration where
  credentials : List Char
  port : List Char
  path : List Char
  fragment : List Char
  credited : CredentialsPart credentials
  ported : PlainPort port
  pathed : PathPart path
  fragmented : FragmentPart fragment

namespace Decoration

/-- No decoration at all. -/
def none : Decoration where
  credentials := []
  port := []
  path := []
  fragment := []
  credited := .absent
  ported := .absent
  pathed := .absent
  fragmented := .absent

/-- The address of a word and a query with the decoration around them. -/
def around (decoration : Decoration) (scheme word query : List Char) : List Char :=
  scheme ++ [':', '/', '/'] ++ (decoration.credentials ++ (word ++ decoration.port)) ++
    decoration.path ++ ['?'] ++ (query ++ decoration.fragment)

end Decoration

section Parts

variable {scheme word query credentials port path fragment : List Char}

theorem CredentialsPart.filter (credited : CredentialsPart credentials) :
    CredentialsPart (credentials.filter (!isIgnored ·)) := by
  cases credited with
  | absent => exact .absent
  | @given user inside =>
      have atSign : isIgnored '@' = false := by decide
      simp only [List.filter_append, List.filter_cons, List.filter_nil, atSign]
      apply CredentialsPart.given
      intro c mem
      exact inside c ((List.mem_filter.mp mem).1)

theorem PathPart.filter (pathed : PathPart path) : PathPart (path.filter (!isIgnored ·)) := by
  cases pathed with
  | absent => exact .absent
  | @given path inside =>
      have slash : isIgnored '/' = false := by decide
      simp only [List.filter_cons, slash]
      apply PathPart.given
      intro c mem
      exact inside c ((List.mem_filter.mp mem).1)

/-- A fragment may lose its end, and a query that is followed by one does not. -/
theorem settle_query (visible : ∀ c, query.getLast? = some c → isTrimmed c = false)
    (fragmented : FragmentPart fragment) :
    ∃ kept, FragmentPart kept ∧
      settle (query ++ fragment) = query.filter (!isIgnored ·) ++ kept := by
  rw [settle_append visible]
  cases fragmented with
  | absent => exact ⟨[], .absent, rfl⟩
  | given text =>
      have mark : ∀ c, ['#'].getLast? = some c → isTrimmed c = false := by
        simp [isTrimmed]
      have settled : settle (['#'] ++ text) = ['#'].filter (!isIgnored ·) ++ settle text :=
        settle_append mark text
      refine ⟨'#' :: settle text, .given _, ?_⟩
      rw [List.singleton_append] at settled
      rw [settled]
      rfl

theorem endsAuthority_of_credentials (credited : CredentialsPart credentials) {c : Char}
    (mem : c ∈ credentials) : endsAuthority .ordinary c = false := by
  cases credited with
  | absent => cases mem
  | @given user inside =>
      rcases List.mem_append.mp mem with inUser | inSign
      · have apart := inside c inUser
        simp [endsAuthority, apart]
      · simp only [List.mem_singleton] at inSign
        subst inSign
        rfl

theorem authorityHost?_decorated (credited : CredentialsPart credentials)
    (plain : PlainWord word) (plainPort : PlainPort port) (tail : List Char) :
    authorityHost? .ordinary (credentials ++ (word ++ port)) tail = some (some word) := by
  cases credited with
  | absent => exact authorityHost?_plain plain plainPort tail
  | @given user inside =>
      rw [← List.append_cons]
      exact authorityHost?_credited plain plainPort user tail

theorem splitAuthority_decorated (credited : CredentialsPart credentials)
    (plain : PlainWord word) (plainPort : PlainPort port) (pathed : PathPart path)
    (after : List Char) :
    splitAuthority .ordinary ((credentials ++ (word ++ port)) ++ (path ++ '?' :: after)) =
      (credentials ++ (word ++ port), path ++ '?' :: after) := by
  apply splitAuthority_append
  · intro c mem
    rcases List.mem_append.mp mem with inCredentials | inPlace
    · exact endsAuthority_of_credentials credited inCredentials
    · exact endsAuthority_of_place plain plainPort inPlace
  · intro c head
    cases pathed with
    | absent =>
        cases head
        rfl
    | given =>
        cases head
        rfl

/-- Whatever the path and the fragment are, the query is between the first question mark and the
first number sign. -/
theorem queryOf_decorated (pathed : PathPart path) (fragmented : FragmentPart fragment)
    (noHash : '#' ∉ query) :
    queryOf .ordinary (path ++ '?' :: (query ++ fragment)) =
      Percent.encode (escapedInQuery .ordinary) query := by
  have passed : ∀ c ∈ path, (c != '?' && c != '#') = true := by
    intro c mem
    cases pathed with
    | absent => cases mem
    | given inside =>
        rcases List.mem_cons.mp mem with rfl | later
        · decide
        · simpa using inside c later
  have dropped : (path ++ '?' :: (query ++ fragment)).dropWhile (fun c => c != '?' && c != '#') =
      '?' :: (query ++ fragment) := by
    rw [List.dropWhile_append_of_pos passed]
    simp
  have kept : ∀ c ∈ query, (c != '#') = true := by
    intro c mem
    simp only [bne_iff_ne, ne_eq]
    rintro rfl
    exact noHash mem
  have taken : (query ++ fragment).takeWhile (· != '#') = query := by
    rw [List.takeWhile_append_of_pos kept]
    cases fragmented with
    | absent => simp
    | given text => simp
  simp only [queryOf, dropped, taken]

end Parts

section Around

variable {scheme word query : List Char} (decoration : Decoration)

/-- What falls away from an address leaves its parts what they are. -/
theorem clean_around (plainScheme : PlainScheme scheme) (plainWord : PlainWord word)
    (visible : ∀ c, query.getLast? = some c → isTrimmed c = false) :
    ∃ other : Decoration, clean (decoration.around scheme word query) =
      other.around scheme word (query.filter (!isIgnored ·)) := by
  rcases decoration with ⟨credentials, port, path, fragment, credited, ported, pathed, fragmented⟩
  rcases settle_query visible fragmented with ⟨kept, keptPart, settled⟩
  refine ⟨⟨_, port, _, kept, credited.filter, ported, pathed.filter, keptPart⟩, ?_⟩
  have schemeKept : scheme.filter (!isIgnored ·) = scheme := by
    apply filter_of_kept
    intro c mem
    have bounds := toNat_of_isSchemeChar (plainScheme.isSchemeChar c mem)
    apply isIgnored_of_lt
    omega
  have placeKept : ∀ c ∈ word ++ port, isIgnored c = false := by
    intro c mem
    have bounds := toNat_of_mem_place plainWord ported mem
    apply isIgnored_of_lt
    omega
  have markKept : [':', '/', '/'].filter (!isIgnored ·) = [':', '/', '/'] := by decide
  have questionKept : ['?'].filter (!isIgnored ·) = ['?'] := by decide
  simp only [Decoration.around]
  rw [clean_eq_settle, settle_append, settled]
  · rw [List.filter_append, List.filter_append, List.filter_append, List.filter_append,
      List.filter_append credentials, schemeKept, markKept, filter_of_kept placeKept, questionKept]
  · intro c last
    rw [List.getLast?_concat] at last
    cases last
    decide
  · intro c head
    rcases plainScheme.begins with ⟨first, others, rfl, least, _⟩
    have same : first = c := by simpa using head
    subst same
    have bound : 0x61 ≤ first.toNat := least
    apply isTrimmed_of_lt
    omega

/-- Reading an address finds the scheme, the word and the query in it, whatever is around them. -/
theorem parse_around (plainScheme : PlainScheme scheme) (plainWord : PlainWord word)
    (noHash : '#' ∉ query) (visible : ∀ c, query.getLast? = some c → isTrimmed c = false) :
    parse (decoration.around scheme word query) = .ok
      { scheme, host := some word,
        query := Percent.encode (escapedInQuery .ordinary) (query.filter (!isIgnored ·)) } := by
  rcases clean_around decoration plainScheme plainWord visible with ⟨other, cleaned⟩
  rcases other with ⟨credentials, port, path, fragment, credited, ported, pathed, fragmented⟩
  have noHashKept : '#' ∉ query.filter (!isIgnored ·) :=
    fun mem => noHash (List.mem_filter.mp mem).1
  have split := splitAuthority_decorated credited plainWord ported pathed
    (query.filter (!isIgnored ·) ++ fragment)
  have written : clean (decoration.around scheme word query) = scheme ++ [':', '/', '/'] ++
      ((credentials ++ (word ++ port)) ++
        (path ++ '?' :: (query.filter (!isIgnored ·) ++ fragment))) := by
    rw [cleaned]
    simp only [Decoration.around, List.append_assoc, List.cons_append, List.nil_append]
  have ordinary : SchemeKind.of (scheme.map Char.toLower) = .ordinary := by
    rw [plainScheme.map_toLower]
    exact plainScheme.ordinary
  rw [parse_of_written plainScheme.letter plainScheme.isSchemeChar ordinary written, split,
    queryOf_decorated pathed fragmented noHashKept, plainScheme.map_toLower]
  rw [split]
  exact authorityHost?_decorated credited plainWord ported _

end Around

end CommandUrl.Address
