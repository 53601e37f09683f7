import Lidify.Webhook.Inbox
import Lidify.Wire.Bytes
import Mathlib.Data.List.Basic
/-
**The frontend's API proxy: where `app/api/[...path]/route.ts` sends a request.**

Each handler (`GET`, `POST`, `PUT`, `PATCH`, `DELETE`) joins the catch-all's decoded segments with
`/` and calls `proxy`, which fetches `buildTargetUrl(request, path)`: the URL `new URL(base/api/path)`
with the request's search, where `base` is `getBackendUrl()`. `new URL` is the URL Standard's
basic URL parser, modelled here for the special schemes other than `file`:

* `preprocess` — leading and trailing C0 controls and spaces are trimmed, tabs and newlines dropped;
* `parseUrl` — scheme, slashes, authority, then the path state segment by segment (`pathState`):
  a double-dot segment (`..`, `.%2e`, `%2e.`, `%2e%2e`, any case) removes the last segment;
* `buildTargetUrl_escapes_api` — a segment `..`, `.%2E` or `%2e%2e` sends the proxied request
  outside the backend's `/api/` tree;
* `buildTargetUrl_stays_under_api` — for a backend at a host `new URL` keeps as written
  (`isCanonicalHost`), segments of plain characters none of which is a double-dot segment keep it
  under `/api/`, at the backend's origin.

The host parser (domain to ASCII, IPv4, the port state) is not modelled: `parseUrl` keeps the
authority as written. That is what `new URL` does for the hosts `isCanonicalHost` admits, a
lower-case domain of plain labels or a canonical IPv4 address with a port the serializer writes
back, and the results about the backend's origin are stated for those.
-/

namespace Lidify.Proxy

open Lidify.Webhook (truthyValue jsOr)
open Lidify.Wire (utf8EncodeChar)

/-! ### `getBackendUrl` -/

/-- The backend used when neither variable is set. -/
def defaultBackendUrl : String := "http://127.0.0.1:3006"

/-- `getBackendUrl()`: `BACKEND_URL || NEXT_PUBLIC_API_URL || default`, with one trailing `/`
removed (`replace(/\/$/, "")`). -/
def getBackendUrl (env : String → Option String) : String :=
  let base := (truthyValue (jsOr (env "BACKEND_URL") (env "NEXT_PUBLIC_API_URL"))).getD
    defaultBackendUrl
  if base.data.getLast? = some '/' then ⟨base.data.dropLast⟩ else base

/-! ### Code points and percent-encoding -/

/-- A C0 control or a space, trimmed from both ends of the input. -/
def isC0ControlOrSpace (c : Char) : Bool := c.toNat ≤ 0x20

/-- A tab, line feed or carriage return, dropped from the input. -/
def isAsciiTabOrNewline (c : Char) : Bool := c.toNat = 0x09 || c.toNat = 0x0A || c.toNat = 0x0D

/-- `/`, or `\`, which special schemes read as `/`. -/
def isPathSeparator (c : Char) : Bool := c = '/' || c.toNat = 0x5C

/-- The C0 control percent-encode set: C0 controls and everything above `~`. -/
def inC0ControlSet (c : Char) : Bool := c.toNat ≤ 0x1F || 0x7E < c.toNat

/-- The query percent-encode set: the C0 control set, space, `"`, `#`, `<` and `>`. -/
def inQuerySet (c : Char) : Bool := inC0ControlSet c || c.toNat ∈ [0x20, 0x22, 0x23, 0x3C, 0x3E]

/-- The special-query percent-encode set: the query set and the apostrophe. -/
def inSpecialQuerySet (c : Char) : Bool := inQuerySet c || c.toNat = 0x27

/-- The path percent-encode set: the query set, `?`, `^`, the backtick, `{` and `}`. -/
def inPathSet (c : Char) : Bool := inQuerySet c || c.toNat ∈ [0x3F, 0x5E, 0x60, 0x7B, 0x7D]

/-- The fragment percent-encode set: the C0 control set, space, `"`, `<`, `>` and the backtick. -/
def inFragmentSet (c : Char) : Bool := inC0ControlSet c || c.toNat ∈ [0x20, 0x22, 0x3C, 0x3E, 0x60]

/-- One upper-case hex digit. -/
def upperHexDigit (digit : Nat) : Char :=
  if digit < 10 then Char.ofNat (0x30 + digit) else Char.ofNat (0x37 + digit)

/-- UTF-8 percent-encode a code point using a percent-encode set. -/
def percentEncode (inSet : Char → Bool) (c : Char) : List Char :=
  if inSet c then
    (utf8EncodeChar c).flatMap fun byte =>
      ['%', upperHexDigit (byte.toNat / 16), upperHexDigit (byte.toNat % 16)]
  else [c]

/-! ### The basic URL parser -/

/-- A URL record of a special scheme: the authority as written (credentials, host and port), the
path's segments, the query and the fragment. -/
structure Url where
  scheme : String
  authority : String
  path : List String
  query : Option String
  fragment : Option String
  deriving DecidableEq, Repr

/-- The host and port: the authority after its last `@`. -/
def Url.host (url : Url) : String := ⟨(url.authority.data.reverse.takeWhile (· ≠ '@')).reverse⟩

/-- `url.origin`. -/
def Url.origin (url : Url) : String := url.scheme ++ "://" ++ url.host

/-- `url.pathname`: each segment after a `/`. -/
def Url.pathname (url : Url) : String := ⟨url.path.flatMap fun segment => '/' :: segment.data⟩

/-- `url.toString()`. -/
def Url.href (url : Url) : String :=
  url.scheme ++ "://" ++ url.authority ++ url.pathname ++ (url.query.map ("?" ++ ·)).getD "" ++
    (url.fragment.map ("#" ++ ·)).getD ""

/-- The schemes the model parses: the special schemes other than `file`. -/
def specialSchemes : List String := ["ftp", "http", "https", "ws", "wss"]

/-- Trim leading and trailing C0 controls and spaces, then drop tabs and newlines. -/
def preprocess (chars : List Char) : List Char :=
  (((chars.dropWhile isC0ControlOrSpace).reverse.dropWhile isC0ControlOrSpace).reverse).filter
    fun c => !isAsciiTabOrNewline c

/-- The scheme state: scheme characters up to the `:`, and what follows it. -/
def schemeState : List Char → Option (List Char × List Char)
  | [] => none
  | c :: rest =>
    if c = ':' then some ([], rest)
    else if c.isAlphanum || c = '+' || c = '-' || c = '.' then
      (schemeState rest).map fun (scheme, after) => (c :: scheme, after)
    else none

/-- The scheme start state: a scheme begins with an ASCII letter. -/
def schemeStart : List Char → Option (List Char × List Char)
  | c :: rest => if c.isAlpha then (schemeState rest).map fun (scheme, after) => (c :: scheme, after)
    else none
  | [] => none

/-- A single-dot URL path segment: `.` or `%2e`, ASCII case-insensitive. -/
def isSingleDot (segment : List Char) : Bool :=
  segment.map Char.toLower = ['.'] || segment.map Char.toLower = ['%', '2', 'e']

/-- A double-dot URL path segment: `..`, `.%2e`, `%2e.` or `%2e%2e`, ASCII case-insensitive. -/
def isDoubleDot (segment : List Char) : Bool :=
  segment.map Char.toLower = ['.', '.'] || segment.map Char.toLower = ['.', '%', '2', 'e'] ||
    segment.map Char.toLower = ['%', '2', 'e', '.'] ||
    segment.map Char.toLower = ['%', '2', 'e', '%', '2', 'e']

/-- The path state at the end of a segment, `last` when it ends the path rather than at a `/` or
`\`: a double-dot segment shortens the path, a single-dot one adds nothing, any other is
appended; at the end of the path both dot segments leave an empty last segment. -/
def endSegment (buffer : List Char) (path : List String) (last : Bool) : List String :=
  if isDoubleDot buffer then path.dropLast ++ (if last then [""] else [])
  else if isSingleDot buffer then (if last then path ++ [""] else path)
  else path ++ [⟨buffer⟩]

/-- The segments of a path between its separators. -/
def splitSegments : List Char → List (List Char)
  | [] => [[]]
  | c :: rest =>
    if isPathSeparator c then [] :: splitSegments rest
    else match splitSegments rest with
      | first :: others => (c :: first) :: others
      | [] => [[c]]

/-- The path state, segment by segment, each segment's code points percent-encoded with the path
set into the buffer. -/
def pathState (path : List String) : List (List Char) → List String
  | [] => path
  | [segment] => endSegment (segment.flatMap (percentEncode inPathSet)) path true
  | segment :: rest => pathState (endSegment (segment.flatMap (percentEncode inPathSet)) path false) rest

/-- The query and fragment states, from a `?` or a `#`. -/
def queryAndFragment : List Char → Option String × Option String
  | '?' :: rest =>
    (some ⟨(rest.takeWhile (· ≠ '#')).flatMap (percentEncode inSpecialQuerySet)⟩,
      match rest.dropWhile (· ≠ '#') with
      | _ :: fragment => some ⟨fragment.flatMap (percentEncode inFragmentSet)⟩
      | [] => none)
  | '#' :: fragment => (none, some ⟨fragment.flatMap (percentEncode inFragmentSet)⟩)
  | _ => (none, none)

/-- A code point that ends the authority: a separator, `?` or `#`. -/
def endsAuthority (c : Char) : Bool := isPathSeparator c || c = '?' || c = '#'

/-- A code point that ends the path: `?` or `#`. -/
def endsPath (c : Char) : Bool := c = '?' || c = '#'

/-- The path start state: one leading separator is skipped. -/
def pathStart : List Char → List Char
  | c :: more => if isPathSeparator c then more else c :: more
  | [] => []

/-- The parse after the scheme: the slashes, the authority up to a separator, `?` or `#` (failure
when its host is empty), the path start and path states, then the query and fragment. -/
def parseAfterScheme (scheme : String) (afterScheme : List Char) : Option Url :=
  let afterSlashes := afterScheme.dropWhile isPathSeparator
  let authority := afterSlashes.takeWhile (!endsAuthority ·)
  let rest := afterSlashes.dropWhile (!endsAuthority ·)
  if (authority.reverse.takeWhile (· ≠ '@')).isEmpty then none
  else
    some ⟨scheme, ⟨authority⟩, pathState [] (splitSegments (pathStart (rest.takeWhile (!endsPath ·)))),
      (queryAndFragment (rest.dropWhile (!endsPath ·))).1,
      (queryAndFragment (rest.dropWhile (!endsPath ·))).2⟩

/-- `new URL(input)` with no base, for the special schemes other than `file`; `none` where it
throws or the scheme is outside the model. -/
def parseUrl (input : String) : Option Url :=
  match schemeStart (preprocess input.data) with
  | none => none
  | some (schemeChars, afterScheme) =>
    let scheme : String := ⟨schemeChars.map Char.toLower⟩
    if scheme ∈ specialSchemes then parseAfterScheme scheme afterScheme else none

/-- `url.search = value`: an empty value clears the query; otherwise one leading `?` is dropped and
the rest parsed in the query state. -/
def Url.setSearch (url : Url) (value : String) : Url :=
  if value.data = [] then { url with query := none }
  else
    let input := (match value.data with
      | '?' :: rest => rest
      | chars => chars).filter fun c => !isAsciiTabOrNewline c
    { url with query := some ⟨input.flatMap (percentEncode inSpecialQuerySet)⟩ }

/-! ### The proxy's target -/

/-- The `path` every handler passes to `proxy`: `params.path.join("/")`. -/
def routePath : List String → String
  | [] => ""
  | [segment] => segment
  | segment :: rest => segment ++ "/" ++ routePath rest

/-- `buildTargetUrl(request, path)`, the URL object before its `toString()`: `new URL` of
`${base}/api/${path}` with `request.nextUrl.search` set as its search; `none` where `new URL`
throws. -/
def buildTargetUrl (env : String → Option String) (search path : String) : Option Url :=
  (parseUrl (getBackendUrl env ++ "/api/" ++ path)).map (·.setSearch search)

/-- **A dot segment leaves `/api/`.** With neither variable set, a catch-all segment `..`, `.%2E`
or `%2e%2e` followed by `admin` makes the proxy fetch `http://127.0.0.1:3006/admin`: the parser
removes `api` with the double-dot segment. -/
theorem buildTargetUrl_escapes_api :
    (buildTargetUrl (fun _ => none) "" (routePath ["..", "admin"])).map Url.href =
        some "http://127.0.0.1:3006/admin" ∧
      (buildTargetUrl (fun _ => none) "" (routePath [".%2E", "admin"])).map Url.href =
        some "http://127.0.0.1:3006/admin" ∧
      (buildTargetUrl (fun _ => none) "" (routePath ["%2e%2e", "admin"])).map Url.href =
        some "http://127.0.0.1:3006/admin" := by
  decide

/-! ### Plain segments stay under `/api/` -/

/-- A code point the path state copies as it is and never reads as a separator. -/
def isPlainChar (c : Char) : Bool := !inPathSet c && !isPathSeparator c

theorem isPlainChar_visible {c : Char} (plain : isPlainChar c = true) : 0x20 < c.toNat := by
  simp only [isPlainChar, inPathSet, inQuerySet, inC0ControlSet, Bool.and_eq_true, Bool.not_eq_true',
    Bool.or_eq_false_iff, decide_eq_false_iff_not, List.mem_cons, List.mem_singleton,
    List.not_mem_nil, or_false, not_or] at plain
  omega

theorem percentEncode_plain {c : Char} (plain : isPlainChar c = true) :
    percentEncode inPathSet c = [c] := by
  simp only [isPlainChar, Bool.and_eq_true, Bool.not_eq_true'] at plain
  simp [percentEncode, plain.1]

theorem flatMap_percentEncode_plain {chars : List Char} (plain : ∀ c ∈ chars, isPlainChar c = true) :
    chars.flatMap (percentEncode inPathSet) = chars := by
  induction chars with
  | nil => rfl
  | cons c rest ih =>
    rw [List.flatMap_cons, percentEncode_plain (plain c (List.mem_cons_self _ _)),
      ih fun d member => plain d (List.mem_cons_of_mem _ member)]
    rfl

/-- Input with no control, space, tab or newline is parsed as it is. -/
theorem preprocess_of_visible {chars : List Char} (visible : ∀ c ∈ chars, 0x20 < c.toNat) :
    preprocess chars = chars := by
  have keep : ∀ l : List Char, (∀ c ∈ l, 0x20 < c.toNat) → l.dropWhile isC0ControlOrSpace = l
    | [], _ => rfl
    | c :: rest, all => by
      have := all c (List.mem_cons_self _ _)
      simp [List.dropWhile_cons, isC0ControlOrSpace, Nat.not_le.mpr this]
  unfold preprocess
  rw [keep chars visible, keep _ (fun c member => visible c (List.mem_reverse.mp member)),
    List.reverse_reverse, List.filter_eq_self]
  intro c member
  have := visible c member
  simp only [isAsciiTabOrNewline, Bool.not_eq_true', Bool.or_eq_false_iff, decide_eq_false_iff_not]
  omega

/-- `splitSegments` always yields a segment. -/
theorem splitSegments_ne_nil (chars : List Char) : splitSegments chars ≠ [] := by
  cases chars with
  | nil => simp [splitSegments]
  | cons c rest =>
    unfold splitSegments
    split
    · simp
    · split <;> simp

/-- Characters that are not separators join the first segment of what follows them. -/
theorem splitSegments_append_of_plain {xs : List Char} (plain : ∀ c ∈ xs, isPathSeparator c = false)
    (ys : List Char) : ∃ first others, splitSegments ys = first :: others ∧
      splitSegments (xs ++ ys) = (xs ++ first) :: others := by
  induction xs with
  | nil =>
    obtain ⟨first, others, split⟩ := List.exists_cons_of_ne_nil (splitSegments_ne_nil ys)
    exact ⟨first, others, split, split⟩
  | cons c rest ih =>
    obtain ⟨first, others, split, joined⟩ :=
      ih fun d member => plain d (List.mem_cons_of_mem _ member)
    refine ⟨first, others, split, ?_⟩
    simp [splitSegments, plain c (List.mem_cons_self _ _), joined]

theorem splitSegments_routePath {segments : List String} (nonempty : segments ≠ [])
    (plain : ∀ segment ∈ segments, ∀ c ∈ segment.data, isPathSeparator c = false) :
    splitSegments (routePath segments).data = segments.map String.data := by
  induction segments with
  | nil => contradiction
  | cons segment rest ih =>
    have own := plain segment (List.mem_cons_self _ _)
    cases rest with
    | nil =>
      obtain ⟨first, others, split, joined⟩ := splitSegments_append_of_plain own []
      simp only [splitSegments, List.cons.injEq] at split
      simpa [routePath, ← split.1, ← split.2] using joined
    | cons next more =>
      obtain ⟨first, others, split, joined⟩ :=
        splitSegments_append_of_plain own ('/' :: (routePath (next :: more)).data)
      simp only [splitSegments, isPathSeparator, decide_True, Bool.true_or, if_true,
        List.cons.injEq] at split
      have tail := ih (List.cons_ne_nil _ _) fun s member => plain s (List.mem_cons_of_mem _ member)
      simp only [routePath, String.data_append, List.append_assoc, List.map_cons] at joined tail ⊢
      rw [List.singleton_append, joined, ← split.1, ← split.2, tail, List.append_nil]

/-- Without double-dot segments the path state only appends: what it starts with stays first,
and the last segment leaves something after it. -/
theorem pathState_keeps_head (front : String) {items : List (List Char)} (nonempty : items ≠ [])
    (noDoubleDot : ∀ item ∈ items, isDoubleDot (item.flatMap (percentEncode inPathSet)) = false)
    (path : List String) : ∃ rest, pathState (front :: path) items = front :: rest ∧ rest ≠ [] := by
  induction items generalizing path with
  | nil => contradiction
  | cons item more ih =>
    have kept := noDoubleDot item (List.mem_cons_self _ _)
    cases more with
    | nil =>
      simp only [pathState, endSegment, kept, Bool.false_eq_true, if_false, if_true]
      split <;> exact ⟨_, rfl, by simp⟩
    | cons next others =>
      obtain ⟨path', step⟩ : ∃ path',
          endSegment (item.flatMap (percentEncode inPathSet)) (front :: path) false = front :: path' := by
        simp only [endSegment, kept, Bool.false_eq_true, if_false]
        split <;> exact ⟨_, rfl⟩
      simp only [pathState, step]
      exact ih (List.cons_ne_nil _ _) (fun item member => noDoubleDot item (List.mem_cons_of_mem _ member)) _

@[simp] theorem Url.setSearch_scheme (url : Url) (value : String) :
    (url.setSearch value).scheme = url.scheme := by
  unfold Url.setSearch; split <;> rfl

@[simp] theorem Url.setSearch_authority (url : Url) (value : String) :
    (url.setSearch value).authority = url.authority := by
  unfold Url.setSearch; split <;> rfl

@[simp] theorem Url.setSearch_path (url : Url) (value : String) :
    (url.setSearch value).path = url.path := by
  unfold Url.setSearch; split <;> rfl

theorem schemeStart_special {scheme : String} (special : scheme ∈ ["http", "https"])
    (rest : List Char) : schemeStart (scheme.data ++ ':' :: rest) = some (scheme.data, rest) := by
  simp only [List.mem_cons, List.mem_singleton, List.not_mem_nil, or_false] at special
  rcases special with rfl | rfl <;> rfl

/-- After the scheme, a plain host and `/` followed by plain path characters parse to that host
and the path state over the path's segments, with no query and no fragment. -/
theorem parseAfterScheme_plain (scheme : String) {host : List Char}
    (hostPlain : host ≠ [] ∧ ∀ c ∈ host, isPlainChar c = true ∧ c ≠ '@') {items : List Char}
    (itemsPlain : ∀ c ∈ items, isPlainChar c = true ∨ c = '/') :
    parseAfterScheme scheme ('/' :: '/' :: (host ++ '/' :: items)) =
      some ⟨scheme, ⟨host⟩, pathState [] (splitSegments items), none, none⟩ := by
  obtain ⟨nonempty, plain⟩ := hostPlain
  have opens : ∀ c, isPlainChar c = true → endsAuthority c = false := by
    intro c isPlain
    simp only [isPlainChar, inPathSet, inQuerySet, Bool.and_eq_true, Bool.not_eq_true',
      Bool.or_eq_false_iff, List.mem_cons, List.mem_singleton, List.not_mem_nil, or_false,
      decide_eq_false_iff_not, not_or] at isPlain
    simp only [endsAuthority, isPlain.2, Bool.false_or, Bool.or_eq_false_iff,
      decide_eq_false_iff_not]
    constructor <;> rintro rfl <;> simp at isPlain
  have pathOpen : ∀ c ∈ '/' :: items, (!endsPath c) = true := by
    intro c member
    rcases List.mem_cons.mp member with rfl | member
    · rfl
    · rcases itemsPlain c member with isPlain | rfl
      · have := opens c isPlain
        simp only [endsAuthority, Bool.or_eq_false_iff] at this
        simp [endsPath, this.1.2, this.2]
      · rfl
  have hostOpen : ∀ c ∈ host, (!endsAuthority c) = true :=
    fun c member => by simp [opens c (plain c member).1]
  have keepHost : (host ++ '/' :: items).dropWhile isPathSeparator = host ++ '/' :: items := by
    obtain ⟨first, rest, rfl⟩ := List.exists_cons_of_ne_nil nonempty
    have := opens first (plain first (List.mem_cons_self _ _)).1
    simp only [endsAuthority, Bool.or_eq_false_iff] at this
    rw [List.cons_append, List.dropWhile_cons_of_neg (by simp [this.1.1])]
  have noAt : host.reverse.takeWhile (· ≠ '@') = host.reverse :=
    List.takeWhile_eq_self_iff.mpr fun c member => by
      simpa using (plain c (List.mem_reverse.mp member)).2
  unfold parseAfterScheme
  dsimp only
  rw [List.dropWhile_cons_of_pos rfl, List.dropWhile_cons_of_pos rfl, keepHost,
    List.takeWhile_append_of_pos hostOpen, List.dropWhile_append_of_pos hostOpen,
    List.takeWhile_cons_of_neg (by decide), List.dropWhile_cons_of_neg (by decide), List.append_nil, noAt,
    List.takeWhile_eq_self_iff.mpr pathOpen, List.dropWhile_eq_nil_iff.mpr pathOpen]
  simp [pathStart, isPathSeparator, queryAndFragment, nonempty]

/-- An `http` or `https` URL with a plain host and a path of plain characters and separators parses
as it is written. -/
theorem parseUrl_plain {scheme : String} (special : scheme ∈ ["http", "https"]) {host : List Char}
    (hostPlain : host ≠ [] ∧ ∀ c ∈ host, isPlainChar c = true ∧ c ≠ '@') {items : List Char}
    (itemsPlain : ∀ c ∈ items, isPlainChar c = true ∨ c = '/') :
    parseUrl ⟨scheme.data ++ ':' :: '/' :: '/' :: (host ++ '/' :: items)⟩ =
      some ⟨scheme, ⟨host⟩, pathState [] (splitSegments items), none, none⟩ := by
  have known : (∀ c ∈ scheme.data, 0x20 < c.toNat) ∧
      (⟨scheme.data.map Char.toLower⟩ : String) = scheme ∧ scheme ∈ specialSchemes := by
    simp only [List.mem_cons, List.mem_singleton, List.not_mem_nil, or_false] at special
    rcases special with rfl | rfl <;> decide
  have visible : ∀ c ∈ scheme.data ++ ':' :: '/' :: '/' :: (host ++ '/' :: items), 0x20 < c.toNat := by
    intro c member
    simp only [List.mem_append, List.mem_cons] at member
    rcases member with inScheme | rfl | rfl | rfl | inHost | rfl | inItems
    · exact known.1 c inScheme
    all_goals first
      | decide
      | exact isPlainChar_visible (hostPlain.2 c inHost).1
      | rcases itemsPlain c inItems with isPlain | rfl
        · exact isPlainChar_visible isPlain
        · decide
  unfold parseUrl
  rw [preprocess_of_visible visible, schemeStart_special special]
  simp only [known.2.1, if_pos known.2.2]
  exact parseAfterScheme_plain scheme hostPlain itemsPlain

theorem mem_routePath {segments : List String} {c : Char} (member : c ∈ (routePath segments).data) :
    (∃ segment ∈ segments, c ∈ segment.data) ∨ c = '/' := by
  induction segments with
  | nil => simp [routePath] at member
  | cons segment rest ih =>
    cases rest with
    | nil => exact .inl ⟨segment, List.mem_singleton_self _, member⟩
    | cons next more =>
      simp only [routePath, String.data_append, List.mem_append] at member
      rcases member with (own | slash) | later
      · exact .inl ⟨segment, List.mem_cons_self _ _, own⟩
      · exact .inr (by simpa using slash)
      · rcases ih later with ⟨other, member, inOther⟩ | slash
        · exact .inl ⟨other, List.mem_cons_of_mem _ member, inOther⟩
        · exact .inr slash

/-- The path `buildTargetUrl` parses after the origin is plain characters and slashes. -/
theorem apiPath_plain {segments : List String}
    (plain : ∀ segment ∈ segments, ∀ c ∈ segment.data, isPlainChar c = true) :
    ∀ c ∈ "api".data ++ '/' :: (routePath segments).data, isPlainChar c = true ∨ c = '/' := by
  intro c member
  rcases List.mem_append.mp member with inApi | rest
  · exact .inl ((by decide : ∀ c ∈ "api".data, isPlainChar c = true) c inApi)
  · rcases List.mem_cons.mp rest with rfl | inPath
    · exact .inr rfl
    · rcases mem_routePath inPath with ⟨segment, listed, inSegment⟩ | slash
      · exact .inl (plain segment listed c inSegment)
      · exact .inr slash

/-- Plain segments, none of them a double-dot segment, give path segments none of which is a
double-dot segment once percent-encoded. -/
theorem splitSegments_routePath_plain {segments : List String}
    (plain : ∀ segment ∈ segments,
      (∀ c ∈ segment.data, isPlainChar c = true) ∧ isDoubleDot segment.data = false) :
    splitSegments (routePath segments).data ≠ [] ∧
      ∀ item ∈ splitSegments (routePath segments).data,
        isDoubleDot (item.flatMap (percentEncode inPathSet)) = false := by
  refine ⟨splitSegments_ne_nil _, ?_⟩
  rcases eq_or_ne segments [] with rfl | listed
  · intro item member
    simp only [routePath, splitSegments, List.mem_singleton] at member
    subst member
    rfl
  · have separatorFree : ∀ segment ∈ segments, ∀ c ∈ segment.data, isPathSeparator c = false :=
      fun segment member c inSegment => by
        have := (plain segment member).1 c inSegment
        simp only [isPlainChar, Bool.and_eq_true, Bool.not_eq_true'] at this
        exact this.2
    rw [splitSegments_routePath listed separatorFree]
    intro item member
    obtain ⟨segment, inSegments, rfl⟩ := List.mem_map.mp member
    rw [flatMap_percentEncode_plain (plain segment inSegments).1]
    exact (plain segment inSegments).2

/-! ### Hosts `new URL` serializes as written -/

/-- The code points of a host name kept as written: lower-case ASCII letters, digits, `-`, `.`. -/
def hostNameChars : List Char := "abcdefghijklmnopqrstuvwxyz0123456789-.".data

/-- The ASCII digits. -/
def decimalDigits : List Char := "0123456789".data

/-- The value of a string of ASCII digits. -/
def decimalValue (digits : List Char) : Nat :=
  digits.foldl (fun value digit => 10 * value + (digit.toNat - '0'.toNat)) 0

/-- One digit, or digits that do not start with `0`. -/
def noLeadingZero (digits : List Char) : Bool := digits.length = 1 || digits.head? ≠ some '0'

/-- A domain the host parser keeps as written: lower-case ASCII letters, digits, `-` and `.`, in
non-empty labels none of which starts with `xn--`, so that domain to ASCII only lower-cases it, and
the last starting with a letter, so that the host does not end in a number and is not read as an
IPv4 address. -/
def isPlainDomain (name : List Char) : Bool :=
  name.all (· ∈ hostNameChars) &&
    (name.splitOn '.').all (fun label => !label.isEmpty && !"xn--".data.isPrefixOf label) &&
    ((name.splitOn '.').getLast?.bind List.head?).any (· ∈ "abcdefghijklmnopqrstuvwxyz".data)

/-- A dotted-decimal IPv4 address as the host serializer writes it: four numbers below `256`
without leading zeros. -/
def isCanonicalIPv4 (name : List Char) : Bool :=
  name.all (fun c => c ∈ decimalDigits || c = '.') && (name.splitOn '.').length = 4 &&
    (name.splitOn '.').all fun part => !part.isEmpty && noLeadingZero part && decimalValue part < 256

/-- The default port of a special scheme, which the port state drops. -/
def defaultPort : String → Option Nat
  | "ftp" => some 21
  | "http" | "ws" => some 80
  | "https" | "wss" => some 443
  | _ => none

/-- A port the port state accepts and the serializer writes back: digits without a leading zero,
at most `65535`, other than the scheme's default. -/
def isKeptPort (scheme : String) (port : List Char) : Bool :=
  !port.isEmpty && port.all (· ∈ decimalDigits) && noLeadingZero port &&
    decimalValue port ≤ 65535 && defaultPort scheme != some (decimalValue port)

/-- A host, with an optional `:port`, that `new URL` accepts and serializes as written. -/
def isCanonicalHost (scheme : String) (host : List Char) : Bool :=
  (isPlainDomain (host.takeWhile (· ≠ ':')) || isCanonicalIPv4 (host.takeWhile (· ≠ ':'))) &&
    match host.dropWhile (· ≠ ':') with
    | [] => true
    | _ :: port => isKeptPort scheme port

/-- A canonical host is not empty, and is written in plain code points none of which is `@`. -/
theorem isCanonicalHost_plain {scheme : String} {host : List Char}
    (canonical : isCanonicalHost scheme host = true) :
    host ≠ [] ∧ ∀ c ∈ host, isPlainChar c = true ∧ c ≠ '@' := by
  have plainSet : ∀ c ∈ ':' :: hostNameChars, isPlainChar c = true ∧ c ≠ '@' := by decide
  have digitsNamed : ∀ c ∈ decimalDigits, c ∈ hostNameChars := by decide
  simp only [isCanonicalHost, Bool.and_eq_true, Bool.or_eq_true] at canonical
  obtain ⟨named, ported⟩ := canonical
  refine ⟨?_, fun c member => plainSet c ?_⟩
  · rintro rfl
    revert named
    decide
  · rw [← List.takeWhile_append_dropWhile (· ≠ ':') host, List.mem_append] at member
    rcases member with inName | inPort
    · refine List.mem_cons_of_mem _ ?_
      rcases named with domain | address
      · simp only [isPlainDomain, Bool.and_eq_true, List.all_eq_true, decide_eq_true_eq] at domain
        exact domain.1.1 c inName
      · simp only [isCanonicalIPv4, Bool.and_eq_true, List.all_eq_true, Bool.or_eq_true,
          decide_eq_true_eq] at address
        rcases address.1.1 c inName with digit | rfl
        · exact digitsNamed c digit
        · decide
    · revert ported inPort
      cases portPart : host.dropWhile (· ≠ ':') with
      | nil => simp
      | cons colon port =>
        have isColon := List.head_dropWhile_not (· ≠ ':') host (by rw [portPart]; simp)
        simp only [portPart, List.head_cons, decide_eq_false_iff_not, not_not] at isColon
        simp only [isKeptPort, Bool.and_eq_true, List.all_eq_true, decide_eq_true_eq, List.mem_cons]
        rintro ⟨⟨⟨⟨_, digits⟩, _⟩, _⟩, _⟩ (rfl | inDigits)
        · exact .inl isColon
        · exact .inr (digitsNamed c (digits c inDigits))

/-- **Plain segments stay under `/api/`.** When `getBackendUrl()` is an `http` or `https` origin
whose host `new URL` keeps as written, segments made of plain characters, none of them a
double-dot segment, give a target at that origin whose pathname starts with `/api/`, whatever the
search. -/
theorem buildTargetUrl_stays_under_api (env : String → Option String) (search : String)
    (segments : List String) {scheme host : String}
    (base : getBackendUrl env = scheme ++ "://" ++ host) (special : scheme ∈ ["http", "https"])
    (canonical : isCanonicalHost scheme host.data = true)
    (plain : ∀ segment ∈ segments,
      (∀ c ∈ segment.data, isPlainChar c = true) ∧ isDoubleDot segment.data = false) :
    ∃ url, buildTargetUrl env search (routePath segments) = some url ∧
      url.origin = getBackendUrl env ∧ ∃ rest, url.pathname = "/api/" ++ rest := by
  have hostPlain := isCanonicalHost_plain canonical
  have input : getBackendUrl env ++ "/api/" ++ routePath segments =
      ⟨scheme.data ++ ':' :: '/' :: '/' ::
        (host.data ++ '/' :: ("api".data ++ '/' :: (routePath segments).data))⟩ := by
    rw [base]
    apply String.ext
    simp only [String.data_append, List.append_assoc]
    rfl
  obtain ⟨first, others, split, joined⟩ := splitSegments_append_of_plain
    (by decide : ∀ c ∈ "api".data, isPathSeparator c = false) ('/' :: (routePath segments).data)
  simp only [splitSegments, isPathSeparator, decide_True, Bool.true_or, if_true, List.cons.injEq]
    at split
  rw [← split.1, ← split.2, List.append_nil] at joined
  have items := splitSegments_routePath_plain plain
  obtain ⟨next, later, listed⟩ := List.exists_cons_of_ne_nil items.1
  rw [listed] at joined items
  obtain ⟨rest, kept, nonempty⟩ := pathState_keeps_head "api" (List.cons_ne_nil _ _) items.2 []
  obtain ⟨segment, more, rfl⟩ := List.exists_cons_of_ne_nil nonempty
  have hostKept : (⟨(host.data.reverse.takeWhile (· ≠ '@')).reverse⟩ : String) = host := by
    rw [List.takeWhile_eq_self_iff.mpr fun c member => by
      simpa using (hostPlain.2 c (List.mem_reverse.mp member)).2, List.reverse_reverse]
  refine ⟨_, by rw [buildTargetUrl, input, parseUrl_plain special hostPlain
    (apiPath_plain fun segment member => (plain segment member).1), joined]; rfl,
    ?_, ⟨segment.data ++ more.flatMap fun segment => '/' :: segment.data⟩, ?_⟩
  · simp only [Url.origin, Url.host, Url.setSearch_scheme, Url.setSearch_authority, hostKept, base]
  · simp only [Url.pathname, Url.setSearch_path]
    have apiFirst : pathState [] ("api".data :: next :: later) = pathState ["api"] (next :: later) :=
      rfl
    rw [apiFirst, kept]
    apply String.ext
    simp

theorem buildTargetUrl_stays_under_api_albums :
    getBackendUrl (fun _ => none) = "http" ++ "://" ++ "127.0.0.1:3006" ∧ "http" ∈ ["http", "https"] ∧
      isCanonicalHost "http" "127.0.0.1:3006".data = true ∧
      (∀ segment ∈ ["albums", "42"],
        (∀ c ∈ segment.data, isPlainChar c = true) ∧ isDoubleDot segment.data = false) ∧
      ∃ url, buildTargetUrl (fun _ => none) "?page=2" (routePath ["albums", "42"]) = some url ∧
        url.origin = getBackendUrl (fun _ => none) ∧ ∃ rest, url.pathname = "/api/" ++ rest :=
  ⟨by decide, by decide, by decide, by decide,
    @buildTargetUrl_stays_under_api _ _ _ "http" "127.0.0.1:3006" (by decide) (by decide) (by decide)
      (by decide)⟩

end Lidify.Proxy
