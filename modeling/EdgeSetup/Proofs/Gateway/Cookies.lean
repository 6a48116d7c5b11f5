import EdgeSetup.Gateway.Token
import EdgeSetup.Proofs.Text.Pieces
import Mathlib.Logic.Relation

/-!
# Where the token is looked for

The Cookie headers of a request are one row of pieces, cut at the semicolons. A piece counts only
when it is a pair whose name, but for blanks before it, is that of the token cookie; such a pair
brings a value (`tokenValues`).

**The token depends on the values and on the Authorization header alone**
(`extractToken?_eq_of_tokenValues`). Pieces of other names, and the way in which the pieces are
spread over headers, have no part in it.

**Main theorem (`extractToken?_extracts`)** says which token is found, that it is trimmed and not
empty, and that no edit of other cookies (`CookieEdit`) changes it.
-/

namespace EdgeSetup

open Http

/-! ## Pairs -/

/-- The piece is a pair of a name and the value, and the name is that of the token cookie. -/
def IsTokenPair (piece value : List Char) : Prop :=
  ∃ name, piece = name ++ '=' :: value ∧ '=' ∉ name ∧
    name.dropWhile Text.isBlank = tokenCookie.toList

/-- The value that a piece brings. -/
def tokenValue? (piece : List Char) : Option (List Char) :=
  (Text.cutAt? '=' piece).bind fun (name, value) =>
    if name.dropWhile Text.isBlank = tokenCookie.toList then some value else none

theorem tokenValue?_eq_some_iff {piece value : List Char} :
    tokenValue? piece = some value ↔ IsTokenPair piece value := by
  constructor
  · intro h
    obtain ⟨⟨name, found⟩, hcut, hname⟩ := Option.bind_eq_some_iff.1 h
    obtain ⟨hpiece, hfree⟩ := Text.cutAt?_eq_some_iff.1 hcut
    by_cases hnamed : name.dropWhile Text.isBlank = tokenCookie.toList
    · cases (if_pos hnamed).symm.trans hname
      exact ⟨name, hpiece, hfree, hnamed⟩
    · cases (if_neg hnamed).symm.trans hname
  · rintro ⟨name, rfl, hfree, hnamed⟩
    rw [tokenValue?, Text.cutAt?_append hfree, Option.bind_some]
    exact if_pos hnamed

/-- Blanks around a piece are dropped from the name in front and from the value at the end. -/
theorem cookie?_eq (piece : List Char) :
    cookie? piece = (Text.cutAt? '=' piece).map fun (name, value) =>
      (name.dropWhile Text.isBlank, Text.trimEndWhile Text.isBlank value) := by
  rw [cookie?]
  cases hcut : Text.cutAt? '=' piece with
  | none =>
    have hfree := Text.cutAt?_eq_none_iff.1 hcut
    exact Text.cutAt?_eq_none_iff.2 fun hmem => hfree ((Text.trim_sublist piece).subset hmem)
  | some parts =>
    obtain ⟨name, value⟩ := parts
    obtain ⟨rfl, hfree⟩ := Text.cutAt?_eq_some_iff.1 hcut
    rw [Text.trim_append_cons (by decide)]
    exact Text.cutAt?_append (fun hmem => hfree ((List.dropWhile_sublist _).subset hmem)) _

theorem nonBlank?_eq_some_iff {text : List Char} {token : String} :
    nonBlank? text = some token ↔ Text.trim text ≠ [] ∧ token = String.ofList (Text.trim text) := by
  unfold nonBlank?
  cases Text.trim text with
  | nil => exact iff_of_false nofun fun h => h.1 rfl
  | cons c chars => simp [eq_comm]

theorem nonBlank?_trimEndWhile (text : List Char) :
    nonBlank? (Text.trimEndWhile Text.isBlank text) = nonBlank? text := by
  rw [nonBlank?, Text.trim_trimEndWhile, nonBlank?]

/-! ## The row of pieces -/

/-- The pieces of the Cookie headers, in order. -/
def cookiePieces (headers : Headers) : List (List Char) :=
  (headers.getAll "cookie").flatMap fun header => Text.splitOn ';' header.toList

/-- The values that the Cookie headers bring under the name of the token cookie, in order. -/
def tokenValues (headers : Headers) : List (List Char) :=
  (cookiePieces headers).filterMap tokenValue?

/-- Every value can be read as a text. -/
def Http.Headers.Readable (headers : Headers) : Prop :=
  ∀ header ∈ headers, isReadableValue header.2 = true

instance (headers : Headers) : Decidable headers.Readable :=
  inferInstanceAs (Decidable (∀ header ∈ headers, isReadableValue header.2 = true))

variable {headers headers' : Headers} {token : String}

theorem find?_cookie (pieces : List (List Char)) :
    ((pieces.filterMap cookie?).find? fun cookie => cookie.1 == tokenCookie.toList).map Prod.snd =
      (pieces.filterMap tokenValue?).head?.map (Text.trimEndWhile Text.isBlank) := by
  induction pieces with
  | nil => rfl
  | cons piece pieces ih =>
    rw [List.filterMap_cons, List.filterMap_cons, cookie?_eq, tokenValue?]
    cases Text.cutAt? '=' piece with
    | none => exact ih
    | some parts =>
      obtain ⟨name, value⟩ := parts
      by_cases hnamed : name.dropWhile Text.isBlank = tokenCookie.toList
      · simp [hnamed]
      · simpa [hnamed] using ih

/-- The cookies show the first value, unless it is blank. -/
theorem cookieToken?_eq (h : headers.Readable) :
    cookieToken? headers = (tokenValues headers).head?.bind nonBlank? := by
  have hreadable : (headers.getAll "cookie").filter isReadableValue = headers.getAll "cookie" := by
    refine List.filter_eq_self.2 fun value hvalue => ?_
    obtain ⟨header, hheader, rfl⟩ := List.mem_map.1 hvalue
    exact h header (List.mem_of_mem_filter hheader)
  have hcookies : cookies (headers.getAll "cookie") = (cookiePieces headers).filterMap cookie? :=
    (List.filterMap_flatMap ..).symm
  have hfind := find?_cookie (cookiePieces headers)
  rw [← tokenValues] at hfind
  simp only [cookieToken?, hreadable, hcookies]
  cases hfirst : (tokenValues headers).head? with
  | none =>
    rw [hfirst, Option.map_none, Option.map_eq_none_iff] at hfind
    rw [hfind]
    rfl
  | some value =>
    rw [hfirst, Option.map_some] at hfind
    obtain ⟨cookie, hcookie, hvalue⟩ := Option.map_eq_some_iff.1 hfind
    rw [hcookie]
    show nonBlank? cookie.2 = nonBlank? value
    rw [hvalue, nonBlank?_trimEndWhile]

/-- **Headers that bring the same values, with the same first Authorization header, show the same
token.** -/
theorem extractToken?_eq_of_tokenValues (h : headers.Readable) (h' : headers'.Readable)
    (hvalues : tokenValues headers' = tokenValues headers)
    (hauthorization : headers'.get? "authorization" = headers.get? "authorization") :
    extractToken? headers' = extractToken? headers := by
  rw [extractToken?, extractToken?, cookieToken?_eq h, cookieToken?_eq h', hvalues, bearerToken?,
    bearerToken?, Headers.getText?, Headers.getText?, hauthorization]

/-! ## The token that is found -/

/-- The first pair of the token cookie's name has a value that is not blank, and this is the token
without the blanks around it. -/
def CookieToken (headers : Headers) (token : String) : Prop :=
  ∃ before piece after value, cookiePieces headers = before ++ piece :: after ∧
    (∀ earlier ∈ before, ∀ other, ¬ IsTokenPair earlier other) ∧ IsTokenPair piece value ∧
    Text.trim value ≠ [] ∧ token = String.ofList (Text.trim value)

/-- The first Authorization header starts with the bearer's mark, the rest is not blank, and this
is the token without the blanks around it. -/
def BearerToken (headers : Headers) (token : String) : Prop :=
  ∃ header rest, headers.get? "authorization" = some header ∧
    header.toList = bearerMark.toList ++ rest ∧
    Text.trim rest ≠ [] ∧ token = String.ofList (Text.trim rest)

theorem head?_tokenValues_eq_some_iff {value : List Char} :
    (tokenValues headers).head? = some value ↔
      ∃ before piece after, cookiePieces headers = before ++ piece :: after ∧
        (∀ earlier ∈ before, ∀ other, ¬ IsTokenPair earlier other) ∧ IsTokenPair piece value := by
  rw [tokenValues, List.head?_filterMap, List.findSome?_eq_some_iff]
  simp only [Option.eq_none_iff_forall_ne_some, ne_eq, tokenValue?_eq_some_iff]
  constructor
  · rintro ⟨before, piece, after, hpieces, hpair, hothers⟩
    exact ⟨before, piece, after, hpieces, hothers, hpair⟩
  · rintro ⟨before, piece, after, hpieces, hothers, hpair⟩
    exact ⟨before, piece, after, hpieces, hpair, hothers⟩

theorem cookieToken?_eq_some_iff (h : headers.Readable) :
    cookieToken? headers = some token ↔ CookieToken headers token := by
  rw [cookieToken?_eq h, Option.bind_eq_some_iff]
  constructor
  · rintro ⟨value, hvalue, htoken⟩
    obtain ⟨before, piece, after, hpieces, hothers, hpair⟩ := head?_tokenValues_eq_some_iff.1 hvalue
    exact ⟨before, piece, after, value, hpieces, hothers, hpair, nonBlank?_eq_some_iff.1 htoken⟩
  · rintro ⟨before, piece, after, value, hpieces, hothers, hpair, htoken⟩
    exact ⟨value, head?_tokenValues_eq_some_iff.2 ⟨before, piece, after, hpieces, hothers, hpair⟩,
      nonBlank?_eq_some_iff.2 htoken⟩

theorem bearerToken?_eq_some_iff (h : headers.Readable) :
    bearerToken? headers = some token ↔ BearerToken headers token := by
  have htext : headers.getText? "authorization" = headers.get? "authorization" := by
    cases hget : headers.get? "authorization" with
    | none => rw [Headers.getText?, hget, Option.filter_none]
    | some header =>
      obtain ⟨before, after, rfl, -⟩ := List.lookup_eq_some_iff.1 hget
      have hreadable : isReadableValue header = true := h _ (List.mem_append_cons_self ..)
      rw [Headers.getText?, hget, Option.filter_some, if_pos hreadable]
  simp only [bearerToken?, htext, bind, Option.bind_eq_some_iff, Text.stripStart?_eq_some_iff,
    nonBlank?_eq_some_iff, BearerToken]
  constructor
  · rintro ⟨header, hheader, rest, hrest, htoken⟩
    exact ⟨header, rest, hheader, hrest, htoken⟩
  · rintro ⟨header, rest, hheader, hrest, htoken⟩
    exact ⟨header, hheader, rest, hrest, htoken⟩

/-- A token is found in the cookies or, when these show none, in the Authorization header. -/
theorem extractToken?_eq_some_iff (h : headers.Readable) :
    extractToken? headers = some token ↔
      CookieToken headers token ∨ (∀ other, ¬ CookieToken headers other) ∧
        BearerToken headers token := by
  simp only [extractToken?, Option.or_eq_some_iff, Option.eq_none_iff_forall_ne_some, ne_eq,
    cookieToken?_eq_some_iff h, bearerToken?_eq_some_iff h]

theorem trimmed_of_trim {text : List Char} (h : Text.trim text ≠ []) :
    String.ofList (Text.trim text) ≠ "" ∧
      Text.trimString (String.ofList (Text.trim text)) = String.ofList (Text.trim text) := by
  constructor
  · intro hempty
    exact h (by simpa using congrArg String.toList hempty)
  · rw [Text.trimString, String.toList_ofList, Text.trim_trim]

/-! ## Edits of cookies -/

/-- A Cookie header of pieces. -/
def cookieHeader (pieces : List (List Char)) : String × String :=
  ("cookie", String.ofList ([';'].intercalate pieces))

/-- One edit of the Cookie headers. -/
inductive CookieEdit : Headers → Headers → Prop where
  /-- A piece of another name is put into a Cookie header. -/
  | insert {before after : Headers} {left right : List (List Char)} {piece : List Char}
      (free : ∀ each ∈ left ++ piece :: right, ';' ∉ each)
      (other : ∀ value, ¬ IsTokenPair piece value) :
      CookieEdit (before ++ cookieHeader (left ++ right) :: after)
        (before ++ cookieHeader (left ++ piece :: right) :: after)
  /-- A Cookie header is put in that holds one piece of another name. -/
  | header {before after : Headers} {piece : List Char} (free : ';' ∉ piece)
      (other : ∀ value, ¬ IsTokenPair piece value) :
      CookieEdit (before ++ after) (before ++ cookieHeader [piece] :: after)
  /-- The last piece of a Cookie header becomes the first one of the next Cookie header. -/
  | move {before between after : Headers} {left right : List (List Char)} {piece : List Char}
      (free : ∀ each ∈ left ++ piece :: right, ';' ∉ each)
      (next : ∀ header ∈ between, header.1 ≠ "cookie") :
      CookieEdit
        (before ++ cookieHeader (left ++ [piece]) :: (between ++ cookieHeader right :: after))
        (before ++ cookieHeader left :: (between ++ cookieHeader (piece :: right) :: after))

theorem lowerCase_cookie : lowerCase "cookie" = "cookie" := by decide

theorem tokenValues_append (headers headers' : Headers) :
    tokenValues (headers ++ headers') = tokenValues headers ++ tokenValues headers' := by
  simp [tokenValues, cookiePieces, Headers.getAll]

theorem tokenValues_cookieHeader {pieces : List (List Char)}
    (hfree : ∀ piece ∈ pieces, ';' ∉ piece) :
    tokenValues [cookieHeader pieces] = pieces.filterMap tokenValue? := by
  have hpieces : cookiePieces [cookieHeader pieces] =
      Text.splitOn ';' ([';'].intercalate pieces) := by
    simp [cookiePieces, Headers.getAll, cookieHeader, lowerCase_cookie]
  rw [tokenValues, hpieces]
  cases pieces with
  | nil => rfl
  | cons piece pieces =>
    have hne : piece :: pieces ≠ [] := nofun
    rw [(Text.splitOn_eq_iff hne).2 ⟨hfree, rfl⟩]

/-- A Cookie header brings its values in its turn. -/
theorem tokenValues_around {pieces : List (List Char)} (hfree : ∀ piece ∈ pieces, ';' ∉ piece)
    (before after : Headers) :
    tokenValues (before ++ cookieHeader pieces :: after) =
      tokenValues before ++ (pieces.filterMap tokenValue? ++ tokenValues after) := by
  rw [← List.singleton_append, tokenValues_append, tokenValues_append,
    tokenValues_cookieHeader hfree]

theorem tokenValues_of_no_cookie (h : ∀ header ∈ headers, header.1 ≠ "cookie") :
    tokenValues headers = [] := by
  have hnone : headers.filter (fun header => header.1 == lowerCase "cookie") = [] :=
    List.filter_eq_nil_iff.2 fun header hheader heq =>
      h header hheader ((eq_of_beq heq).trans lowerCase_cookie)
  rw [tokenValues, cookiePieces, Headers.getAll, hnone]
  rfl

theorem tokenValue?_of_other {piece : List Char} (h : ∀ value, ¬ IsTokenPair piece value) :
    tokenValue? piece = none :=
  Option.eq_none_iff_forall_ne_some.2 fun value hvalue => h value (tokenValue?_eq_some_iff.1 hvalue)

/-- An edit brings no value and takes none away. -/
theorem CookieEdit.values (h : CookieEdit headers headers') :
    tokenValues headers' = tokenValues headers := by
  cases h with
  | @insert before after left right piece free other =>
    rw [tokenValues_around free, tokenValues_around fun each heach => free each (by grind),
      List.filterMap_append, List.filterMap_append,
      List.filterMap_cons_none (tokenValue?_of_other other)]
  | @header before after piece free other =>
    rw [tokenValues_around (by simpa using free),
      List.filterMap_cons_none (tokenValue?_of_other other), List.filterMap_nil, List.nil_append,
      tokenValues_append]
  | @move before between after left right piece free next =>
    have hleft : ∀ each ∈ left, ';' ∉ each := fun each heach => free each (by grind)
    have hright : ∀ each ∈ right, ';' ∉ each := fun each heach => free each (by grind)
    have hpiece : ';' ∉ piece := free piece (by grind)
    rw [tokenValues_around hleft, tokenValues_around (by grind), tokenValues_around (by grind),
      tokenValues_around hright, tokenValues_of_no_cookie next, List.filterMap_append,
      ← List.singleton_append (l := right), List.filterMap_append]
    simp only [List.append_assoc, List.nil_append]

/-- Headers of another name do not hide the first one of a name. -/
theorem get?_filter {name other : String} (h : lowerCase name ≠ other) (headers : Headers) :
    Headers.get? (headers.filter fun header => header.1 != other) name = headers.get? name := by
  unfold Headers.get?
  induction headers with
  | nil => rfl
  | cons header headers ih =>
    by_cases hother : header.1 = other
    · have hname : (lowerCase name == header.1) = false := by simpa [hother] using h
      rw [List.filter_cons_of_neg (by simp [hother]), ih, List.lookup_cons, hname]
    · rw [List.filter_cons_of_pos (by simpa using hother), List.lookup_cons, List.lookup_cons, ih]

theorem CookieEdit.authorization (h : CookieEdit headers headers') :
    headers'.get? "authorization" = headers.get? "authorization" := by
  have hname : lowerCase "authorization" ≠ "cookie" := by decide
  rw [← get?_filter hname headers, ← get?_filter hname headers']
  cases h <;> simp [List.filter_append, cookieHeader]

/-! ## The main theorem -/

/-- What holds of the token that is found. -/
structure ExtractsToken (headers : Headers) : Prop where
  /-- It is that of the first cookie of the token's name, unless this is blank or missing; then it
  is that of the first Authorization header, and otherwise there is none. -/
  found : ∀ token, extractToken? headers = some token ↔
    CookieToken headers token ∨ (∀ other, ¬ CookieToken headers other) ∧ BearerToken headers token
  trimmed : ∀ token, extractToken? headers = some token →
    token ≠ "" ∧ Text.trimString token = token
  /-- Nothing but the values of the token cookie and the Authorization header counts. -/
  values : ∀ headers' : Headers, headers'.Readable → tokenValues headers' = tokenValues headers →
    headers'.get? "authorization" = headers.get? "authorization" →
      extractToken? headers' = extractToken? headers
  /-- Any number of edits, made or taken back, leaves it. -/
  edited : ∀ headers' : Headers, headers'.Readable → Relation.EqvGen CookieEdit headers headers' →
    extractToken? headers' = extractToken? headers

/-- **The token depends on nothing but what is written for it.** -/
theorem extractToken?_extracts (hreadable : headers.Readable) : ExtractsToken headers := by
  constructor
  case found => exact fun token => extractToken?_eq_some_iff hreadable
  case trimmed =>
    intro token htoken
    rcases (extractToken?_eq_some_iff hreadable).1 htoken with
      ⟨_, _, _, value, -, -, -, hfilled, rfl⟩ | ⟨-, _, rest, -, -, hfilled, rfl⟩
    · exact trimmed_of_trim hfilled
    · exact trimmed_of_trim hfilled
  case values =>
    intro headers' hreadable' hvalues hauthorization
    exact extractToken?_eq_of_tokenValues hreadable hreadable' hvalues hauthorization
  case edited =>
    intro headers' hreadable' hedits
    have hsame : tokenValues headers' = tokenValues headers ∧
        headers'.get? "authorization" = headers.get? "authorization" := by
      clear hreadable hreadable'
      induction hedits with
      | rel _ _ hedit => exact ⟨hedit.values, hedit.authorization⟩
      | refl _ => exact ⟨rfl, rfl⟩
      | symm _ _ _ ih => exact ⟨ih.1.symm, ih.2.symm⟩
      | trans _ _ _ _ _ ih ih' => exact ⟨ih'.1.trans ih.1, ih'.2.trans ih.2⟩
    exact extractToken?_eq_of_tokenValues hreadable hreadable' hsame.1 hsame.2

/-- The cookie wins over the Authorization header, its value may hold the sign that ends its name,
and a name with a blank at its end is another name, wherever it stands. -/
theorem extractToken?_extracts_others :
    let headers : Headers :=
      [("cookie", "theme=dark;  k8s-access-token-cookie= a=b "), ("authorization", "Bearer c")]
    let headers' : Headers :=
      [ ("authorization", "Bearer c"), ("cookie", "k8s-access-token-cookie =z"), ("cookie", ""),
        ("cookie", ";  k8s-access-token-cookie= a=b ;theme") ]
    headers.Readable ∧ headers'.Readable ∧ extractToken? headers = some "a=b" ∧
      extractToken? headers' = some "a=b" := by
  intro headers headers'
  have hreadable : headers.Readable := by decide +kernel
  have hreadable' : headers'.Readable := by decide +kernel
  have hextracts := extractToken?_extracts hreadable
  have hfound : extractToken? headers = some "a=b" := by
    refine (hextracts.found "a=b").2 (.inl ⟨["theme=dark".toList],
      "  k8s-access-token-cookie= a=b ".toList, [], " a=b ".toList, by decide +kernel, ?_,
      ⟨"  k8s-access-token-cookie".toList, by decide +kernel⟩, by decide +kernel⟩)
    intro earlier hearlier other hpair
    rw [List.mem_singleton.1 hearlier, ← tokenValue?_eq_some_iff] at hpair
    cases hpair
  have hsame := hextracts.values headers' hreadable' (by decide +kernel) (by decide +kernel)
  exact ⟨hreadable, hreadable', hfound, hsame.trans hfound⟩

end EdgeSetup
