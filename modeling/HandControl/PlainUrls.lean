import HandControl.UrlPaths
import Mathlib.Data.List.TakeWhile

/-!
# Where the two readers meet

What the parser of the URL Standard makes of a text, and what the reader of URIs does: where each
cuts the text into authority, path and the rest, and that both find the same host and the same
port in an authority.
-/

namespace HandControl.PlainUrls

open UrlPaths UrlSyntax

/-- The characters that neither reader changes or refuses in a path. -/
def isPathChar (symbol : Char) : Bool :=
  let code := symbol.toNat
  code == 0x21 || (0x24 ≤ code && code ≤ 0x2E) || (0x30 ≤ code && code ≤ 0x3B) || code == 0x3D ||
    (0x40 ≤ code && code ≤ 0x5A) || code == 0x5F || (0x61 ≤ code && code ≤ 0x7A) || code == 0x7E

variable {symbol : Char} {text front digits scheme authority path tail : List Char} {uri : Uri}
variable {port : Option Nat} {rules : UrlRules}

theorem isPathChar_unreserved (plain : isPathChar symbol = true) : isPathEnd symbol = false := by
  have different (other : Char) (reserved : isPathChar other = false) : symbol ≠ other := by
    rintro rfl
    exact absurd plain (by simp [reserved])
  simp [isPathEnd, different '?' rfl, different '#' rfl]

/-- What the two are documented to do: the parser accepts brackets in a host only around an address;
the reader accepts the schemes of websockets, no white space, no backslash in an authority, and
plain characters everywhere. -/
structure Documented (rules : UrlRules) : Prop where
  paths : DocumentedPaths rules.readPath
  brackets : ∀ text host, rules.parseHost text = some host → '[' ∈ text ∨ ']' ∈ text →
    ∃ inner, text = '[' :: (inner ++ [']']) ∧ ']' ∉ inner
  schemes : rules.acceptsScheme "ws".toList = true ∧ rules.acceptsScheme "wss".toList = true
  authorities : ∀ text, rules.acceptsAuthority text = true →
    ∀ symbol ∈ text, 0x21 ≤ symbol.toNat ∧ symbol ≠ '\\'
  visible : ∀ symbol, rules.acceptsInPath symbol = true → 0x21 ≤ symbol.toNat
  slash : rules.acceptsInPath '/' = true
  plain : ∀ symbol, isPathChar symbol = true →
    rules.acceptsInPath symbol = true ∧ rules.acceptsInQuery symbol = true

theorem takeWhile_append_stop {α : Type} {keep : α → Bool} {front back : List α}
    (kept : ∀ symbol ∈ front, keep symbol = true)
    (stops : ∀ symbol ∈ back.head?, keep symbol = false) :
    (front ++ back).takeWhile keep = front := by
  rw [List.takeWhile_append_of_pos kept]
  cases back with
  | nil => simp
  | cons symbol =>
    have stop := stops symbol rfl
    rw [List.takeWhile_cons_of_neg (by simp [stop]), List.append_nil]

theorem drop_takeWhile_length {α : Type} (keep : α → Bool) (text : List α) :
    text.drop (text.takeWhile keep).length = text.dropWhile keep := by
  have cut : (text.takeWhile keep ++ text.dropWhile keep).drop (text.takeWhile keep).length =
      text.dropWhile keep := List.drop_left
  rwa [List.takeWhile_append_dropWhile] at cut

theorem head_dropWhile {α : Type} {keep : α → Bool} {text : List α} :
    ∀ symbol ∈ (text.dropWhile keep).head?, keep symbol = false := by
  intro symbol member
  have stops := List.head?_dropWhile_not keep text
  rw [Option.mem_def.mp member] at stops
  exact stops

theorem after_last_mark {front back : List Char} {mark : Char} (free : mark ∉ back) :
    ((front ++ mark :: back).reverse.takeWhile fun symbol => symbol != mark).reverse = back := by
  rw [List.reverse_append, List.reverse_cons, List.append_assoc, List.singleton_append,
    takeWhile_append_stop, List.reverse_reverse]
  · intro symbol member
    rw [bne_iff_ne]
    rintro rfl
    exact free (List.mem_reverse.mp member)
  · simp

/-- The ends of the text are visible up to the mark, so only what follows can be cleaned. -/
theorem cleaned_append {front rest : List Char} {mark : Char}
    (visible : ∀ symbol ∈ front ++ [mark], 0x21 ≤ symbol.toNat) :
    ∃ rest', cleaned (front ++ mark :: rest) = front ++ mark :: rest' ∧
      (rest = [] → rest' = []) := by
  let blank (symbol : Char) : Bool := decide (symbol.toNat ≤ 0x20)
  have not_blank : ∀ symbol ∈ front ++ [mark], blank symbol = false := by
    intro symbol member
    have seen := visible symbol member
    simp only [blank, decide_eq_false_iff_not]
    omega
  have left : (front ++ mark :: rest).dropWhile blank = front ++ mark :: rest := by
    cases front with
    | nil => exact List.dropWhile_cons_of_neg (by simp [not_blank mark (by simp)])
    | cons first => exact List.dropWhile_cons_of_neg (by simp [not_blank first (by simp)])
  have right : ∃ back, (front ++ mark :: rest).reverse.dropWhile blank =
      back ++ (mark :: front.reverse) ∧ (rest = [] → back = []) := by
    have shape : (front ++ mark :: rest).reverse = rest.reverse ++ (mark :: front.reverse) := by
      simp
    rw [shape, List.dropWhile_append]
    split_ifs
    · refine ⟨[], ?_, fun _ => rfl⟩
      exact List.dropWhile_cons_of_neg (by simp [not_blank mark (by simp)])
    · refine ⟨_, rfl, ?_⟩
      rintro rfl
      rfl
  obtain ⟨back, back_eq, back_nil⟩ := right
  let kept (symbol : Char) : Bool := !(symbol == '\t' || symbol == '\n' || symbol == '\r')
  have keeps : ∀ symbol ∈ front ++ [mark], kept symbol = true := by
    intro symbol member
    have seen := visible symbol member
    have different (other : Char) (low : other.toNat ≤ 0x20) : symbol ≠ other := by
      rintro rfl
      omega
    simp [kept, different '\t' (by decide), different '\n' (by decide),
      different '\r' (by decide)]
  refine ⟨back.reverse.filter kept, ?_, fun empty => by simp [back_nil empty]⟩
  show (((front ++ mark :: rest).dropWhile blank).reverse.dropWhile blank).reverse.filter kept = _
  have shape : (back ++ mark :: front.reverse).reverse = (front ++ [mark]) ++ back.reverse := by
    simp
  rw [left, back_eq, shape, List.filter_append, List.filter_eq_self.mpr keeps]
  simp

theorem cleaned_of_visible (visible : ∀ symbol ∈ text, 0x21 ≤ symbol.toNat) :
    cleaned text = text := by
  cases last : text.getLast? with
  | none =>
    rw [List.getLast?_eq_none_iff.mp last]
    rfl
  | some mark =>
    obtain ⟨front, rfl⟩ := List.getLast?_eq_some_iff.mp last
    obtain ⟨_, cleaned_eq, rest_nil⟩ := @cleaned_append front [] mark visible
    rw [cleaned_eq, rest_nil rfl]

theorem dropCredentials_split (authority : List Char) :
    ∃ front, authority = front ++ dropCredentials authority ∧
      (front = [] ∨ ∃ before, front = before ++ ['@']) := by
  let keep (symbol : Char) : Bool := symbol != '@'
  refine ⟨(authority.reverse.dropWhile keep).reverse, ?_, ?_⟩
  · show authority = _ ++ (authority.reverse.takeWhile keep).reverse
    rw [← List.reverse_append, List.takeWhile_append_dropWhile, List.reverse_reverse]
  · cases shape : authority.reverse.dropWhile keep with
    | nil => exact .inl rfl
    | cons mark rest =>
      have stops := @head_dropWhile _ keep authority.reverse mark (by rw [shape]; rfl)
      have mark_eq : mark = '@' := by simpa [keep] using stops
      exact .inr ⟨rest.reverse, by rw [mark_eq, List.reverse_cons]⟩

def portText : Option (List Char) → List Char
  | none => []
  | some digits => ':' :: digits

theorem splitHost_text (inside : Bool) (text : List Char) :
    text = (splitHost inside text).1 ++ portText (splitHost inside text).2 := by
  induction text generalizing inside with
  | nil => rfl
  | cons symbol rest ih =>
    rw [splitHost]
    by_cases colon : symbol = ':' ∧ inside = false
    · rw [if_pos colon, colon.1]
      rfl
    · rw [if_neg colon]
      dsimp only
      rw [List.cons_append, ← ih]

theorem colon_free_of_bracket_free (unbracketed : '[' ∉ (splitHost false text).1) :
    ':' ∉ (splitHost false text).1 := by
  induction text with
  | nil => simp [splitHost]
  | cons symbol rest ih =>
    rw [splitHost] at unbracketed ⊢
    by_cases colon : symbol = ':'
    · simp [colon]
    · rw [if_neg (fun both => colon both.1)] at unbracketed ⊢
      dsimp only at unbracketed ⊢
      have opening : symbol ≠ '[' := fun same => unbracketed (by simp [same])
      have outside : (if symbol = '[' then true else if symbol = ']' then false else false) =
          false := by
        rw [if_neg opening]
        split_ifs <;> rfl
      rw [outside] at unbracketed ⊢
      have rest_free := ih fun member => unbracketed (List.mem_cons_of_mem _ member)
      rw [List.mem_cons, not_or]
      exact ⟨Ne.symm colon, rest_free⟩

section

variable (documented : Documented rules) {host : List Char}

inductive HostText : List Char → Prop where
  | name {text : List Char} (nonempty : text ≠ []) (opening : '[' ∉ text) (colon : ':' ∉ text) :
      HostText text
  | bracketed {inner : List Char} (closing : ']' ∉ inner) : HostText ('[' :: (inner ++ [']']))

include documented in
theorem hostText_of_parseHost (nonempty : (splitHost false text).1 ≠ [])
    (parsed : rules.parseHost (splitHost false text).1 = some host) :
    HostText (splitHost false text).1 := by
  by_cases opening : '[' ∈ (splitHost false text).1
  · obtain ⟨_, shape, closing⟩ := documented.brackets _ host parsed (.inl opening)
    rw [shape]
    exact .bracketed closing
  · exact .name nonempty opening (colon_free_of_bracket_free opening)

theorem uri_host_eq (hostText : HostText (splitHost false (dropCredentials uri.authority)).1) :
    uri.host = (splitHost false (dropCredentials uri.authority)).1 := by
  have text := splitHost_text false (dropCredentials uri.authority)
  unfold Uri.host
  dsimp only
  generalize splitHost false (dropCredentials uri.authority) = parts at hostText text
  obtain ⟨host, port⟩ := parts
  rw [text]
  cases hostText with
  | name nonempty opening colon =>
    have unbracketed : (host ++ portText port).head? ≠ some '[' := by
      cases host with
      | nil => exact absurd rfl nonempty
      | cons =>
        intro bracket
        exact opening (by simp_all)
    rw [if_neg unbracketed]
    apply takeWhile_append_stop
    · intro symbol member
      simp only [bne_iff_ne]
      rintro rfl
      exact colon member
    · cases port with
      | none => simp [portText]
      | some =>
        intro symbol member
        cases member
        rfl
  | @bracketed inner closing =>
    have shape : '[' :: (inner ++ [']']) ++ portText port =
        ('[' :: inner) ++ (']' :: portText port) := by simp
    dsimp only
    rw [shape, if_pos (by simp), takeWhile_append_stop]
    · simp
    · intro symbol member
      simp only [bne_iff_ne]
      rintro rfl
      rcases List.mem_cons.mp member with same | inside
      · exact absurd same (by decide)
      · exact closing inside
    · intro symbol member
      cases member
      rfl

theorem port_of_last_colon (authority : uri.authority = front ++ ':' :: digits)
    (plain : ∀ symbol ∈ digits, symbol.isDigit = true) : uri.port = portNumber digits := by
  have colon_free : ':' ∉ digits := fun member => absurd (plain ':' member) (by decide)
  have unsigned : digits.head? ≠ some '+' := by
    intro plus
    exact absurd (plain '+' (List.mem_of_head? plus)) (by decide)
  unfold Uri.port
  rw [authority, if_pos (by simp), after_last_mark colon_free]
  dsimp only
  rw [if_neg unsigned]

theorem port_none_of_mark {back : List Char} {mark : Char}
    (authority : uri.authority = front ++ mark :: back)
    (colon_free : ∀ symbol ∈ mark :: back, symbol ≠ ':') (no_digit : mark.isDigit = false)
    (no_plus : mark ≠ '+') : uri.port = none := by
  have kept : ∀ symbol ∈ back.reverse ++ [mark], (symbol != ':') = true := by
    intro symbol member
    have inside : symbol ∈ mark :: back := by
      simpa [or_comm] using member
    simpa using colon_free symbol inside
  have shape : (front ++ mark :: back).reverse = (back.reverse ++ [mark]) ++ front.reverse := by
    simp
  unfold Uri.port
  rw [authority, shape, List.takeWhile_append_of_pos kept]
  split_ifs with colon
  · have member : mark ∈ ((back.reverse ++ [mark]) ++
        (front.reverse.takeWhile fun symbol => symbol != ':')).reverse := by simp
    generalize ((back.reverse ++ [mark]) ++
        (front.reverse.takeWhile fun symbol => symbol != ':')).reverse = text at member
    have remains : mark ∈ if text.head? = some '+' then text.tail else text := by
      split_ifs with plus
      · rw [← List.cons_head?_tail plus] at member
        exact (List.mem_cons.mp member).resolve_left no_plus
      · exact member
    dsimp only
    unfold portNumber
    rw [if_neg]
    rintro ⟨_, all_digits, _⟩
    have digit := List.all_eq_true.mp all_digits mark remains
    rw [no_digit] at digit
    exact Bool.false_ne_true digit
  · rfl

theorem digits_of_readPort (read : readPort scheme (some digits) = some port) :
    ∀ symbol ∈ digits, symbol.isDigit = true := by
  cases digits with
  | nil => simp
  | cons =>
    obtain ⟨_, number_eq, _⟩ := Option.map_eq_some_iff.mp read
    unfold portNumber at number_eq
    split_ifs at number_eq with valid
    exact List.all_eq_true.mp valid.2.1

theorem uri_port_eq (hostText : HostText (splitHost false (dropCredentials uri.authority)).1)
    (read : readPort scheme (splitHost false (dropCredentials uri.authority)).2 = some port) :
    uri.port = (splitHost false (dropCredentials uri.authority)).2.bind portNumber := by
  have text := splitHost_text false (dropCredentials uri.authority)
  obtain ⟨front, whole, front_eq⟩ := dropCredentials_split uri.authority
  generalize splitHost false (dropCredentials uri.authority) = parts at hostText text read
  obtain ⟨host, digits⟩ := parts
  rw [text] at whole
  cases digits with
  | some digits =>
    have shape : uri.authority = (front ++ host) ++ ':' :: digits := by
      rw [whole, List.append_assoc]
      rfl
    exact port_of_last_colon shape (digits_of_readPort read)
  | none =>
    rw [portText, List.append_nil] at whole
    show uri.port = none
    cases hostText with
    | name _ _ colon =>
      rcases front_eq with rfl | ⟨_, rfl⟩
      · unfold Uri.port
        rw [whole, List.nil_append, if_neg colon]
      · rw [List.append_assoc, List.singleton_append] at whole
        refine port_none_of_mark whole ?_ (by decide) (by decide)
        intro symbol member
        rcases List.mem_cons.mp member with rfl | inside
        · decide
        · rintro rfl
          exact colon inside
    | @bracketed inner _ =>
      have shape : uri.authority = (front ++ '[' :: inner) ++ ']' :: [] := by
        simpa using whole
      exact port_none_of_mark shape (by decide) (by decide) (by decide)

theorem effective_port {digits : Option (List Char)} (read : readPort scheme digits = some port) :
    (digits.bind portNumber).or (defaultPort scheme) = port.or (defaultPort scheme) := by
  match digits with
  | none =>
    cases read
    rfl
  | some [] =>
    cases read
    rfl
  | some (digit :: rest) =>
    simp only [readPort, Option.map_eq_some_iff] at read
    obtain ⟨_, number_eq, rfl⟩ := read
    rw [Option.bind_some, number_eq]
    split_ifs with default
    · rw [default]
      rfl
    · rfl

end

structure Cut (authority path tail : List Char) : Prop where
  nonempty : authority ≠ []
  bounded : ∀ symbol ∈ authority, isSlash symbol = false ∧ isPathEnd symbol = false
  starts : ∀ symbol ∈ path.head?, symbol = '/'
  unended : ∀ symbol ∈ path, isPathEnd symbol = false
  ends : ∀ symbol ∈ tail.head?, isPathEnd symbol = true

section

variable (cut : Cut authority path tail)

include cut

theorem Cut.head : ∀ symbol ∈ (path ++ tail).head?, symbol = '/' ∨ isPathEnd symbol = true := by
  intro symbol member
  cases path with
  | nil => exact .inr (cut.ends symbol member)
  | cons => exact .inl (cut.starts symbol member)

theorem Cut.path_eq : (path ++ tail).takeWhile (fun symbol => !isPathEnd symbol) = path := by
  apply takeWhile_append_stop
  · intro symbol member
    simp [cut.unended symbol member]
  · intro symbol member
    simp [cut.ends symbol member]

theorem readWebUrl_cut {url : Url}
    (read : readWebUrl rules scheme ('/' :: '/' :: (authority ++ (path ++ tail))) = some url) :
    (splitHost false (dropCredentials authority)).1 ≠ [] ∧
      rules.parseHost (splitHost false (dropCredentials authority)).1 = some url.host ∧
      readPort scheme (splitHost false (dropCredentials authority)).2 = some url.port ∧
      url.scheme = scheme ∧ url.path = rules.readPath path := by
  have skipped : ('/' :: '/' :: (authority ++ (path ++ tail))).dropWhile isSlash =
      authority ++ (path ++ tail) := by
    rw [List.dropWhile_cons_of_pos rfl, List.dropWhile_cons_of_pos rfl]
    cases shape : authority with
    | nil => exact absurd shape cut.nonempty
    | cons first =>
      have slash := (cut.bounded first (by simp [shape])).1
      rw [List.cons_append, List.dropWhile_cons_of_neg (by simp [slash])]
  have authority_eq : (authority ++ (path ++ tail)).takeWhile
      (fun symbol => !(isSlash symbol || isPathEnd symbol)) = authority := by
    apply takeWhile_append_stop
    · intro symbol member
      simp [(cut.bounded symbol member).1, (cut.bounded symbol member).2]
    · intro symbol member
      rcases cut.head symbol member with rfl | ends
      · rfl
      · simp [ends]
  unfold readWebUrl at read
  simp only [skipped, authority_eq, List.drop_left, cut.path_eq] at read
  split_ifs at read with empty
  simp only [Option.bind_eq_bind, Option.bind_eq_some_iff, Option.some.injEq] at read
  obtain ⟨_, host_eq, _, port_eq, rfl⟩ := read
  exact ⟨empty, host_eq, port_eq, rfl, rfl⟩

end

theorem parseUrl_websocket (rules : UrlRules) {rest : List Char}
    (websocket : scheme = "ws".toList ∨ scheme = "wss".toList)
    (clean : cleaned text = scheme ++ ':' :: rest) :
    parseUrl rules text = (readWebUrl rules scheme rest).map .web := by
  unfold parseUrl
  rw [clean]
  rcases websocket with rfl | rfl
  · rfl
  · rfl

theorem isAuthorityEnd_eq_false_iff (forward : symbol ≠ '\\') :
    isAuthorityEnd symbol = false ↔ isSlash symbol = false ∧ isPathEnd symbol = false := by
  simp [isAuthorityEnd, isSlash, forward]

def schemeText (scheme rest : List Char) : List Char := scheme ++ ':' :: '/' :: '/' :: rest

section

variable (documented : Documented rules)

include documented

theorem readUri_cut (websocket : scheme = "ws".toList ∨ scheme = "wss".toList)
    (cut : Cut authority path tail) (accepted : rules.acceptsAuthority authority = true)
    (nonempty : path ≠ []) (plain : ∀ symbol ∈ path, rules.acceptsInPath symbol = true)
    (query : ∀ symbol ∈ tail.tail, rules.acceptsInQuery symbol = true)
    (short : (String.ofList (schemeText scheme (authority ++ (path ++ tail)))).utf8ByteSize ≤
      rules.longest) :
    readUri rules (schemeText scheme (authority ++ (path ++ tail))) =
      some ⟨scheme, authority, path⟩ := by
  have authority_eq : (authority ++ (path ++ tail)).takeWhile
      (fun symbol => !isAuthorityEnd symbol) = authority := by
    apply takeWhile_append_stop
    · intro symbol member
      have forward := (documented.authorities authority accepted symbol member).2
      simp [(isAuthorityEnd_eq_false_iff forward).mpr (cut.bounded symbol member)]
    · intro symbol member
      rcases cut.head symbol member with rfl | ends
      · rfl
      · simp [isAuthorityEnd, ends]
  have query_accepted : tail.head? = some '?' →
      (tail.tail.takeWhile fun symbol => symbol != '#').all rules.acceptsInQuery = true := by
    intro _
    rw [List.all_eq_true]
    intro symbol member
    exact query symbol (List.takeWhile_subset _ member)
  have scheme_cut : (schemeText scheme (authority ++ (path ++ tail))).dropWhile isSchemeChar =
        ':' :: '/' :: '/' :: (authority ++ (path ++ tail)) ∧
      (schemeText scheme (authority ++ (path ++ tail))).takeWhile isSchemeChar = scheme ∧
      rules.acceptsScheme scheme = true := by
    rcases websocket with rfl | rfl
    · exact ⟨rfl, rfl, documented.schemes.1⟩
    · exact ⟨rfl, rfl, documented.schemes.2⟩
  unfold readUri
  rw [if_neg (by omega), scheme_cut.1, scheme_cut.2.1]
  simp only [authority_eq, List.drop_left, cut.path_eq]
  rw [if_pos ⟨scheme_cut.2.2, cut.nonempty, accepted, List.all_eq_true.mpr plain,
    query_accepted⟩, if_neg nonempty]

theorem readUri_parts (read : readUri rules text = some uri) :
    (String.ofList text).utf8ByteSize ≤ rules.longest ∧
      rules.acceptsAuthority uri.authority = true ∧
      ∃ path tail, text = schemeText uri.scheme (uri.authority ++ (path ++ tail)) ∧
        Cut uri.authority path tail ∧ uri.path = (if path = [] then ['/'] else path) ∧
          ∀ symbol ∈ path, rules.acceptsInPath symbol = true := by
  unfold readUri at read
  split_ifs at read with long
  split at read
  · rename_i rest rest_eq
    obtain ⟨⟨_, nonempty, accepted, plain, _⟩, uri_eq⟩ := Option.ite_none_right_eq_some.mp read
    cases uri_eq
    rw [drop_takeWhile_length, drop_takeWhile_length] at *
    generalize authority_eq : (rest.takeWhile fun symbol => !isAuthorityEnd symbol) = authority at *
    generalize after_eq : (rest.dropWhile fun symbol => !isAuthorityEnd symbol) = after at *
    generalize path_eq : (after.takeWhile fun symbol => !isPathEnd symbol) = path at *
    generalize tail_eq : (after.dropWhile fun symbol => !isPathEnd symbol) = tail at *
    have after_parts : path ++ tail = after := by
      rw [← path_eq, ← tail_eq, List.takeWhile_append_dropWhile]
    have rest_parts : authority ++ (path ++ tail) = rest := by
      rw [after_parts, ← authority_eq, ← after_eq, List.takeWhile_append_dropWhile]
    refine ⟨by omega, accepted, path, tail, ?_, ?_, rfl, List.all_eq_true.mp plain⟩
    · rw [rest_parts, schemeText, ← rest_eq, List.takeWhile_append_dropWhile]
    · have unended : ∀ symbol ∈ path, isPathEnd symbol = false := by
        rw [← path_eq]
        intro symbol member
        simpa using List.mem_takeWhile_imp member
      constructor
      · exact nonempty
      · intro symbol member
        have bounded : isAuthorityEnd symbol = false := by
          rw [← authority_eq] at member
          simpa using List.mem_takeWhile_imp member
        have forward := (documented.authorities authority accepted symbol member).2
        exact (isAuthorityEnd_eq_false_iff forward).mp bounded
      · intro symbol member
        have first : symbol ∈ after.head? := by
          rw [← after_parts, List.head?_append]
          rw [Option.mem_def.mp member]
          rfl
        rw [← after_eq] at first
        have stops := head_dropWhile symbol first
        have not_end := unended symbol (List.mem_of_head? member)
        simpa [isAuthorityEnd, not_end] using stops
      · exact unended
      · rw [← tail_eq]
        intro symbol member
        simpa using head_dropWhile symbol member
  · cases read

end

end HandControl.PlainUrls
