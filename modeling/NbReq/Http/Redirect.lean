import NbReq.Request

/-!
# Redirects

How the owner plans a redirect from a response head (`types::plan_redirect`), rewrites the request for it
(`Request::redirected`) and carries the hop count and the total deadline over to the next exchange
(`NativeHttpBackend::complete_response`, `complete_stream_response`). How the `url` crate parses and joins URLs
is a parameter.

1. `RequestRedirect.apply_headers`, `RequestRedirect.apply_body`: what one hop keeps of a request.
2. `redirect_chain`: what every chain of followed redirects keeps of the caller's request.
-/

namespace NbReq

/-! ## The target of a redirect -/

/-- A byte `0x80..=0xBF`. -/
def isContinuation (byte : UInt8) : Bool := 0x80 ≤ byte && byte ≤ 0xBF

/-- `std::str::from_utf8(..).is_ok()`: the well-formed byte sequences of UTF-8, without overlong forms,
surrogates and values past `U+10FFFF`. -/
def isUtf8 : Bytes → Bool
  | [] => true
  | a :: rest =>
    if a < 0x80 then isUtf8 rest
    else match rest with
      | [] => false
      | b :: rest =>
        if 0xC2 ≤ a && a ≤ 0xDF then isContinuation b && isUtf8 rest
        else match rest with
          | [] => false
          | c :: rest =>
            let second := if a == 0xE0 then 0xA0 ≤ b && b ≤ 0xBF
              else if a == 0xED then 0x80 ≤ b && b ≤ 0x9F
              else 0xE1 ≤ a && a ≤ 0xEF && isContinuation b
            if a ≤ 0xEF then second && isContinuation c && isUtf8 rest
            else match rest with
              | [] => false
              | d :: rest =>
                let second := if a == 0xF0 then 0x90 ≤ b && b ≤ 0xBF
                  else if a == 0xF4 then 0x80 ≤ b && b ≤ 0x8F
                  else 0xF1 ≤ a && a ≤ 0xF3 && isContinuation b
                second && isContinuation c && isContinuation d && isUtf8 rest

/-- What the `url` crate does with URL texts: whether `Url::parse` accepts a base, and `Url::join` on it. -/
structure UrlCrate where
  parses : Bytes → Bool
  join : Bytes → Bytes → Option Bytes

/-- The loop over the `Location` fields in `resolved_redirect_target_from_headers`. -/
def locationField : Option Bytes → List Header → Except Error (Option Bytes)
  | location, [] => .ok location
  | location, header :: rest =>
    if header.named "location" then
      if location.isSome then
        .error (Error.new .redirect "a redirect response contained more than one Location field")
      else if isUtf8 (trimAscii header.value) then
        locationField (some (trimAscii header.value)) rest
      else
        .error (Error.new .redirect "a redirect Location was not valid UTF-8")
    else
      locationField location rest

/-- `native_http::resolved_redirect_target_from_headers`. -/
def resolvedRedirectTargetFromHeaders (url : UrlCrate) (request : Request) (headers : List Header) :
    Except Error (Option Bytes) := do
  match ← locationField none headers with
  | none => return none
  | some location =>
    if !url.parses request.url then
      throw (Error.new .redirect "the redirect source URL could not be resolved")
    match url.join request.url location with
    | some target => return some target
    | none => throw (Error.new .redirect "the redirect Location could not be resolved")

/-! ## Planning and following one hop -/

/-- `types::RequestRedirect`. -/
structure RequestRedirect where
  url : Bytes
  method : Method
  keepBody : Bool
  crossOrigin : Bool
deriving DecidableEq, Repr

/-- The framing headers `Request::redirected` drops with the body. -/
def Header.isBodyHeader (header : Header) : Bool :=
  header.named "content-length" || header.named "transfer-encoding"

/-- The headers `Request::redirected` drops when the origin changes. -/
def Header.isOriginBound (header : Header) : Bool :=
  header.named "authorization" || header.named "proxy-authorization" || header.named "cookie" ||
    header.named "host"

def Request.redirected (request : Request) (url : Bytes) (method : Method) (keepBody crossOrigin : Bool) :
    Request :=
  { request with
    method := method
    url := url
    headers := request.headers.filter fun header =>
      (keepBody || !header.isBodyHeader) && (!crossOrigin || !header.isOriginBound)
    body := if keepBody then request.body else []
    bodyCapacity := if keepBody then request.bodyCapacity else 0 }

def RequestRedirect.apply (redirect : RequestRedirect) (request : Request) : Request :=
  request.redirected redirect.url redirect.method redirect.keepBody redirect.crossOrigin

/-- The method of the next request and whether it keeps the body, for the statuses `plan_redirect` follows. -/
def redirectMethod (method : Method) : Nat → Option (Method × Bool)
  | 301 | 302 => match method with
    | .get | .head => some (method, true)
    | _ => none
  | 303 => match method with
    | .head => some (.head, false)
    | _ => some (.get, false)
  | 307 | 308 => some (method, true)
  | _ => none

/-- `types::plan_redirect`; `target` is only asked for when the hop is within the limit. -/
def planRedirect (request : Request) (status : Nat) (redirectHops : UInt8)
    (target : Unit → Except Error (Option Bytes)) : Except Error (Option RequestRedirect) :=
  match redirectMethod request.method status with
  | none => .ok none
  | some (method, keepBody) =>
    let limit := request.options.redirectLimit
    if limit = 0 then .ok none
    else if redirectHops ≥ limit then
      .error (Error.new .redirect s!"redirect limit of {limit} hops was exceeded")
    else do
      match ← target () with
      | none => return none
      | some target =>
        let sourceOrigin ← httpOrigin request.url .redirect
        let targetOrigin ← httpOrigin target .redirect
        if sourceOrigin.scheme = ascii "https" ∧ targetOrigin.scheme = ascii "http" then
          throw (Error.new .redirect "an HTTPS-to-HTTP redirect was blocked")
        return some ⟨target, method, keepBody, sourceOrigin ≠ targetOrigin⟩

/-- `redirect_hops.saturating_add(1)`. -/
def nextHop (hops : UInt8) : UInt8 := if hops = 255 then 255 else hops + 1

/-- What a transfer hands on from one exchange to the next: the request, the number of hops it took to get
here and the instant the whole operation must be over. -/
structure Exchange where
  request : Request
  redirectHops : UInt8
  totalDeadline : Option Nat
deriving DecidableEq, Repr

def Exchange.plan (url : UrlCrate) (exchange : Exchange) (status : Nat) (headers : List Header) :
    Except Error (Option RequestRedirect) :=
  planRedirect exchange.request status exchange.redirectHops fun _ =>
    resolvedRedirectTargetFromHeaders url exchange.request headers

def Exchange.follow (exchange : Exchange) (redirect : RequestRedirect) : Exchange :=
  { exchange with
    request := redirect.apply exchange.request
    redirectHops := nextHop exchange.redirectHops }

/-! ## What one hop keeps -/

section Hop

variable {url : UrlCrate} {exchange : Exchange} {status : Nat} {headers : List Header}
  {redirect : RequestRedirect} {request : Request}

/-- The origin of a URL as the redirect code reads it. -/
def urlOrigin (url : Bytes) : Option HttpOrigin := (httpOrigin url .redirect).toOption

def hasScheme (url : Bytes) (scheme : String) : Prop := ∃ origin, urlOrigin url = some origin ∧
  origin.scheme = ascii scheme

theorem RequestRedirect.apply_headers {header : Header} :
    header ∈ (redirect.apply request).headers ↔ header ∈ request.headers ∧
      (header.isBodyHeader → redirect.keepBody) ∧ (header.isOriginBound → ¬ redirect.crossOrigin) := by
  simp only [apply, Request.redirected, List.mem_filter]
  cases redirect.keepBody <;> cases redirect.crossOrigin <;> simp

theorem RequestRedirect.apply_body :
    (redirect.apply request).body = if redirect.keepBody then request.body else [] :=
  rfl

/-- Everything a planned redirect has been checked for. -/
theorem Exchange.plan_spec (planned : exchange.plan url status headers = .ok (some redirect)) :
    exchange.redirectHops < exchange.request.options.redirectLimit ∧
      ∃ source target, urlOrigin exchange.request.url = some source ∧ urlOrigin redirect.url = some target ∧
        ¬ (source.scheme = ascii "https" ∧ target.scheme = ascii "http") ∧
        redirect.crossOrigin = decide (source ≠ target) := by
  unfold Exchange.plan planRedirect at planned
  split at planned
  · cases planned
  next method keepBody _ =>
  dsimp only at planned
  split at planned
  · cases planned
  split at planned
  · cases planned
  next within =>
  refine ⟨by simpa using within, ?_⟩
  cases found : resolvedRedirectTargetFromHeaders url exchange.request headers with
  | error => simp [found, bind, Except.bind] at planned
  | ok location =>
    cases location with
    | none => simp [found, bind, Except.bind, pure, Except.pure] at planned
    | some location =>
      cases source : httpOrigin exchange.request.url .redirect with
      | error => simp [found, source, bind, Except.bind] at planned
      | ok source' =>
        cases target : httpOrigin location .redirect with
        | error => simp [found, source, target, bind, Except.bind] at planned
        | ok target' =>
          simp only [found, source, target, bind, Except.bind, pure, Except.pure] at planned
          split at planned
          · cases planned
          next allowed =>
          cases planned
          exact ⟨source', target', by simp [urlOrigin, source, Except.toOption],
            by simp [urlOrigin, target, Except.toOption], allowed, rfl⟩

/-- Two URLs of one origin, as far as the redirect code can tell. -/
def SameOrigin (a b : Bytes) : Prop := ∃ origin, urlOrigin a = some origin ∧ urlOrigin b = some origin

theorem SameOrigin.trans {a b c : Bytes} (ab : SameOrigin a b) (bc : SameOrigin b c) : SameOrigin a c := by
  obtain ⟨origin, ha, hb⟩ := ab
  obtain ⟨origin', hb', hc⟩ := bc
  cases hb.symm.trans hb'
  exact ⟨origin, ha, hc⟩

/-- A hop that keeps an origin-bound header stays in its origin. -/
theorem Exchange.plan_sameOrigin (planned : exchange.plan url status headers = .ok (some redirect))
    (kept : ¬ redirect.crossOrigin) : SameOrigin exchange.request.url redirect.url := by
  obtain ⟨-, source, target, sourceIs, targetIs, -, cross⟩ := Exchange.plan_spec planned
  rw [cross, decide_eq_true_iff, Decidable.not_not] at kept
  exact ⟨source, sourceIs, kept ▸ targetIs⟩

/-- No planned redirect leaves TLS. -/
theorem Exchange.plan_scheme (planned : exchange.plan url status headers = .ok (some redirect)) :
    ¬ (hasScheme exchange.request.url "https" ∧ hasScheme redirect.url "http") := by
  obtain ⟨-, source, target, sourceIs, targetIs, secure, -⟩ := Exchange.plan_spec planned
  rintro ⟨⟨source', sourceIs', https⟩, target', targetIs', http⟩
  cases sourceIs.symm.trans sourceIs'
  cases targetIs.symm.trans targetIs'
  exact secure ⟨https, http⟩

theorem nextHop_toNat {hops limit : UInt8} (within : hops < limit) :
    (nextHop hops).toNat = hops.toNat + 1 := by
  have room : hops.toNat < limit.toNat := within
  have top := limit.toNat_lt
  have notMax : hops ≠ 255 := by
    rintro rfl
    simp at room
    omega
  rw [nextHop, if_neg notMax, UInt8.toNat_add]
  simp
  omega

end Hop

/-! ## Chains -/

/-- One followed redirect: the exchange it left, the plan and the exchange it led to. -/
structure Hop where
  source : Exchange
  redirect : RequestRedirect
  target : Exchange

/-- The chains of followed redirects that start with `first`, over every status and every list of response
headers at each hop. -/
inductive Chain (url : UrlCrate) (first : Exchange) : List Hop → Exchange → Prop
  | start : Chain url first [] first
  | hop {hops : List Hop} {last : Exchange} {status : Nat} {headers : List Header}
      {redirect : RequestRedirect} (before : Chain url first hops last)
      (planned : last.plan url status headers = .ok (some redirect)) :
      Chain url first (hops ++ [⟨last, redirect, last.follow redirect⟩]) (last.follow redirect)

/-- What the last request of a chain still carries of the first one's headers: anything origin-bound only if no
hop left the origin, a framing header only if no hop dropped the body. -/
structure Carries (first : Exchange) (hops : List Hop) (last : Exchange) (header : Header) : Prop where
  callers : header ∈ first.request.headers
  originBound : header.isOriginBound → ∀ hop ∈ hops, SameOrigin first.request.url hop.target.request.url
  framing : header.isBodyHeader → ∀ hop ∈ hops, hop.redirect.keepBody

section Chain

variable {url : UrlCrate} {first last : Exchange} {hops : List Hop}

theorem Chain.options (chain : Chain url first hops last) :
    last.request.options = first.request.options ∧ last.totalDeadline = first.totalDeadline := by
  induction chain with
  | start => exact ⟨rfl, rfl⟩
  | hop _ _ ih => exact ih

/-- Each hop is counted, and was planned below the limit. -/
theorem Chain.hops_le (chain : Chain url first hops last) (fresh : first.redirectHops = 0) :
    last.redirectHops.toNat = hops.length ∧ hops.length ≤ first.request.options.redirectLimit.toNat := by
  induction chain with
  | start => simp [fresh]
  | @hop hops last status headers redirect before planned ih =>
    have within := (Exchange.plan_spec planned).1
    have counted : (last.follow redirect).redirectHops.toNat = hops.length + 1 := by
      rw [← ih.1]
      exact nextHop_toNat within
    have below : last.redirectHops.toNat < last.request.options.redirectLimit.toNat := within
    rw [before.options.1, ih.1] at below
    exact ⟨by simpa using counted, by simpa using Nat.succ_le_of_lt below⟩

theorem Chain.secure (chain : Chain url first hops last) :
    ∀ hop ∈ hops, ¬ (hasScheme hop.source.request.url "https" ∧ hasScheme hop.target.request.url "http") := by
  induction chain with
  | start => simp
  | hop _ planned ih =>
    intro hop mem
    rcases List.mem_append.mp mem with old | new
    · exact ih hop old
    · cases List.mem_singleton.mp new
      exact Exchange.plan_scheme planned

/-- While every hop stayed in its origin, the last request is in the first one's. -/
theorem Chain.sameOrigin (chain : Chain url first hops last)
    (stayed : ∀ hop ∈ hops, SameOrigin first.request.url hop.target.request.url) :
    last = first ∨ SameOrigin first.request.url last.request.url := by
  cases chain with
  | start => exact .inl rfl
  | hop => exact .inr (stayed _ (List.mem_append_right _ (List.mem_singleton.mpr rfl)))

/-- The per-hop filter only compares neighbours: what it let through so far says that the neighbour still is in
the first origin. -/
theorem Chain.carries (chain : Chain url first hops last) :
    ∀ header ∈ last.request.headers, Carries first hops last header := by
  induction chain with
  | start => exact fun header mem => ⟨mem, by simp, by simp⟩
  | @hop hops last status headers redirect before planned ih =>
    intro header mem
    obtain ⟨kept, framing, origin⟩ := RequestRedirect.apply_headers.mp mem
    have earlier := ih header kept
    refine ⟨earlier.callers, fun bound hop mem => ?_, fun body hop mem => ?_⟩
    · rcases List.mem_append.mp mem with old | new
      · exact earlier.originBound bound hop old
      cases List.mem_singleton.mp new
      have here := Exchange.plan_sameOrigin planned (origin bound)
      rcases before.sameOrigin (earlier.originBound bound) with rfl | soFar
      · exact here
      · exact soFar.trans here
    · rcases List.mem_append.mp mem with old | new
      · exact earlier.framing body hop old
      · cases List.mem_singleton.mp new
        exact framing body

/-- A body that one hop dropped stays dropped. -/
theorem Chain.body (chain : Chain url first hops last) (dropped : ∃ hop ∈ hops, ¬ hop.redirect.keepBody) :
    last.request.body = [] := by
  induction chain with
  | start => simp at dropped
  | @hop hops last status headers redirect _ _ ih =>
    obtain ⟨hop, mem, drops⟩ := dropped
    show (redirect.apply last.request).body = []
    rw [RequestRedirect.apply_body]
    split
    · next keeps =>
      rcases List.mem_append.mp mem with old | new
      · exact ih ⟨hop, old, drops⟩
      · cases List.mem_singleton.mp new
        exact absurd keeps drops
    · rfl

/-- Every chain of followed redirects, whatever the responses and however URLs are joined. The chain's own
prefixes are chains, so this is about each request along the way: it carries one of the caller's origin-bound
headers only if every hop so far stayed in the caller's origin; no hop leaves TLS; there are at most
`redirect_limit` hops; options and total deadline are the caller's; and once a hop dropped the body, neither the
body nor a framing header of the caller comes back. -/
theorem redirect_chain (chain : Chain url first hops last) (fresh : first.redirectHops = 0) :
    (∀ header ∈ last.request.headers, header.isOriginBound → header ∈ first.request.headers ∧
        ∀ hop ∈ hops, SameOrigin first.request.url hop.target.request.url) ∧
      (∀ hop ∈ hops, ¬ (hasScheme hop.source.request.url "https" ∧
        hasScheme hop.target.request.url "http")) ∧
      hops.length ≤ first.request.options.redirectLimit.toNat ∧
      last.request.options = first.request.options ∧ last.totalDeadline = first.totalDeadline ∧
      ((∃ hop ∈ hops, ¬ hop.redirect.keepBody) →
        last.request.body = [] ∧ ∀ header ∈ last.request.headers, ¬ header.isBodyHeader) := by
  refine ⟨fun header mem bound => ?_, chain.secure, (chain.hops_le fresh).2, chain.options.1, chain.options.2,
    fun dropped => ⟨chain.body dropped, fun header mem body => ?_⟩⟩
  · have carried := chain.carries header mem
    exact ⟨carried.callers, carried.originBound bound⟩
  · obtain ⟨hop, hopMem, drops⟩ := dropped
    exact drops ((chain.carries header mem).framing body hop hopMem)

/-- A `UrlCrate` that takes every location for the target. -/
def UrlCrate.absolute : UrlCrate := ⟨fun _ => true, fun _ location => some location⟩

/-- A POST with a body, credentials and framing headers of its own. -/
def Exchange.posted : Exchange :=
  ⟨⟨.post, ascii "http://a/", [⟨ascii "Cookie", ascii "1"⟩, ⟨ascii "Content-Length", ascii "1"⟩, ⟨ascii "X", []⟩],
    [0x31], 1, default⟩, 0, some 7⟩

def RequestRedirect.away : RequestRedirect := ⟨ascii "http://b/", .post, true, true⟩

def RequestRedirect.back : RequestRedirect := ⟨ascii "http://a/", .get, false, true⟩

/-- The cookie is lost on the way out and not restored on coming back; body and framing header are gone too. -/
theorem redirect_chain_back :
    ∃ hops last, Chain .absolute .posted hops last ∧ hops.length = 2 ∧ last.request.url = ascii "http://a/" ∧
      hops.length ≤ 5 ∧ last.totalDeadline = some 7 ∧ last.request.body = [] ∧
      last.request.headers = [⟨ascii "X", []⟩] := by
  have out : Exchange.posted.plan .absolute 307 [⟨ascii "Location", ascii "http://b/"⟩] = .ok (some .away) :=
    ok_of_toOption (by decide +kernel)
  have home : (Exchange.posted.follow .away).plan .absolute 303 [⟨ascii "Location", ascii "http://a/"⟩] =
      .ok (some .back) :=
    ok_of_toOption (by decide +kernel)
  have chain := (Chain.start.hop out).hop home
  have keeps := redirect_chain chain rfl
  refine ⟨_, _, chain, rfl, rfl, keeps.2.2.1, keeps.2.2.2.2.1, ?_, by decide +kernel⟩
  exact (keeps.2.2.2.2.2 ⟨_, List.mem_append_right _ (List.mem_singleton.mpr rfl), by decide⟩).1

end Chain

end NbReq
