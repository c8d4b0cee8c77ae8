import NbReq.Http.Serialize
import NbReq.Http.Redirect
import NbReq.Http.ReceiveLimit

/-!
# How a method is spelled

The head, the framing of the response and the redirects depend on the method of a request, each by a match of its own.
`method_name` writes an extension method as it is, and the others only know `Method::Get` and `Method::Head`.

1. `serialize_ok`: the head of a request that serializes.
2. `respelled_alike`: two spellings of a method that are sent as the same bytes are treated alike if and only if both or
   neither are `Method::Head`, and both or neither are `Method::Get` where redirects are followed at all.
-/

namespace NbReq

section

variable {width : PointerWidth} {request : Request} {limits : HttpLimits} {upload : Option UploadFraming}
  {s s' : SerializedRequest} {method method' : Method}

/-- The head of a request that serializes. -/
theorem serialize_ok (sent : serializeRequestWithUpload width request limits upload = .ok s) :
    ∃ target scan, RequestTarget.parse request.url = .ok target ∧
      request.headers.foldlM (HeaderScan.step width upload) ⟨0, none, none⟩ = .ok scan ∧
      s.bytes = methodName request.method ++ [0x20] ++ target.pathAndQuery ++ ascii " HTTP/1.1" ++ [0x0D, 0x0A] ++
        (request.headers ++ generatedHeaders request target scan upload).flatMap headerLine ++ [0x0D, 0x0A] ∧
      s.responseToHead = decide (request.method = .head) := by
  unfold serializeRequestWithUpload at sent
  simp only [bind_eq_ok, check_eq_ok, pure_eq_ok] at sent
  obtain ⟨_, -, target, isTarget, -, scan, isScan, -, -, -, -, rfl⟩ := sent
  exact ⟨target, scan, isTarget, isScan, rfl, rfl⟩

/-- Only the method of a head comes from the method. -/
theorem methodName_of_bytes (sent : serializeRequestWithUpload width request limits upload = .ok s)
    (sent' : serializeRequestWithUpload width { request with method := method } limits upload = .ok s')
    (same : s'.bytes = s.bytes) : methodName method = methodName request.method := by
  obtain ⟨target, scan, isTarget, isScan, bytes, -⟩ := serialize_ok sent
  obtain ⟨target', scan', isTarget', isScan', bytes', -⟩ := serialize_ok sent'
  cases isTarget.symm.trans isTarget'
  cases isScan.symm.trans isScan'
  rw [bytes, bytes'] at same
  simpa [generatedHeaders] using same

/-- Methods other than GET and HEAD are followed alike. -/
theorem redirectMethod_of_ne (notGet : method ≠ .get) (notHead : method ≠ .head) (status : Nat) :
    redirectMethod method status =
      if status = 303 then some (.get, false) else if status = 307 ∨ status = 308 then some (method, true) else none := by
  unfold redirectMethod
  split <;> simp_all

/-- The request that follows has the same method and keeps the body or not, whichever way the method is spelled. -/
theorem redirectMethod_respelled (name : methodName method' = methodName method)
    (head : method' = .head ↔ method = .head) (get : method' = .get ↔ method = .get) (status : Nat) :
    redirectMethod method status = none ∧ redirectMethod method' status = none ∨
      ∃ next next' keepBody, redirectMethod method status = some (next, keepBody) ∧
        redirectMethod method' status = some (next', keepBody) ∧ methodName next' = methodName next := by
  by_cases same : method' = method
  · subst same
    cases planned : redirectMethod method' status with
    | none => exact .inl ⟨rfl, rfl⟩
    | some next => exact .inr ⟨next.1, next.1, next.2, rfl, rfl, rfl⟩
  have notGet : method ≠ .get := fun isGet => same ((get.mpr isGet).trans isGet.symm)
  have notHead : method ≠ .head := fun isHead => same ((head.mpr isHead).trans isHead.symm)
  rw [redirectMethod_of_ne notGet notHead, redirectMethod_of_ne (notGet ∘ get.mp) (notHead ∘ head.mp)]
  split
  · exact .inr ⟨_, _, _, rfl, rfl, rfl⟩
  · split
    · exact .inr ⟨_, _, _, rfl, rfl, name⟩
    · exact .inl ⟨rfl, rfl⟩

end

/-- Both requests fail with the same error, or are not redirected, or are redirected to requests that only spell the same
method in different ways. -/
inductive PlanAlike (request request' : Request) :
    Except Error (Option RequestRedirect) → Except Error (Option RequestRedirect) → Prop
  | failed (error : Error) : PlanAlike request request' (.error error) (.error error)
  | stays : PlanAlike request request' (.ok none) (.ok none)
  | follows {redirect redirect' : RequestRedirect} (name : methodName redirect'.method = methodName redirect.method)
      (rest : redirect'.apply request' = { redirect.apply request with method := redirect'.method }) :
      PlanAlike request request' (.ok (some redirect)) (.ok (some redirect'))

section

variable {request : Request} {method : Method} {status : Nat} {hops : UInt8} {target : Unit → Except Error (Option Bytes)}

theorem planRedirect_zero (request : Request) (zero : request.options.redirectLimit = 0) :
    planRedirect request status hops target = .ok none := by
  unfold planRedirect
  split
  · rfl
  · exact if_pos zero

theorem planRedirect_respelled (name : methodName method = methodName request.method)
    (head : method = .head ↔ request.method = .head) (get : method = .get ↔ request.method = .get) :
    PlanAlike request { request with method := method } (planRedirect request status hops target)
      (planRedirect { request with method := method } status hops target) := by
  unfold planRedirect
  rcases redirectMethod_respelled name head get status with ⟨none, none'⟩ |
    ⟨next, next', keepBody, planned, planned', name⟩
  · rw [none, none']
    exact .stays
  rw [planned, planned']
  dsimp only
  split
  · exact .stays
  split
  · exact .failed _
  cases target () with
  | error error => exact .failed error
  | ok found =>
    cases found with
    | none => exact .stays
    | some url =>
      simp only [bind, Except.bind, pure, Except.pure]
      split
      · exact .failed _
      split
      · exact .failed _
      split
      · exact .failed _
      exact .follows name rfl

/-- A 301 response without a usable target only fails a GET or a HEAD request. -/
theorem planRedirect_moved (request : Request) (limited : request.options.redirectLimit ≠ 0) (error : Error) :
    planRedirect request 301 0 (fun _ => .error error) =
      if request.method = .get ∨ request.method = .head then .error error else .ok none := by
  have room : ¬(0 : UInt8) ≥ request.options.redirectLimit := by
    intro none
    exact limited (UInt8.toNat_inj.mp (Nat.le_zero.mp (UInt8.le_iff_toNat_le.mp none)))
  unfold planRedirect redirectMethod
  cases request.method with
  | get | head =>
    rw [if_pos (by decide)]
    exact (if_neg limited).trans (if_neg room)
  | _ => rfl

/-- Plans at a 301 response tell the methods that are followed there from the others. -/
theorem PlanAlike.moved_iff {request' : Request} {followed followed' : Prop} [Decidable followed] [Decidable followed']
    {error : Error} (alike : PlanAlike request request' (if followed then .error error else .ok none)
      (if followed' then .error error else .ok none)) : followed' ↔ followed := by
  by_cases first : followed
  · by_cases second : followed'
    · exact iff_of_true second first
    · rw [if_pos first, if_neg second] at alike
      cases alike
  · by_cases second : followed'
    · rw [if_neg first, if_pos second] at alike
      cases alike
    · exact iff_of_false second first

end

/-- The outcomes of a response without a length tell a response to HEAD from another. -/
theorem responseToHead_of_decode {width : PointerWidth} {toHead toHead' : Bool}
    (same : ∀ http limits segments, decodeSegments width http (.new toHead' limits) 0 segments =
      decodeSegments width http (.new toHead limits) 0 segments) : toHead' = toHead := by
  have differ : decodeSegments width plainHttp (.new true ⟨10, 19, 1⟩) 0 [ascii "HTTP/1.1 200 OK\r\n\r\n"] ≠
      decodeSegments width plainHttp (.new false ⟨10, 19, 1⟩) 0 [ascii "HTTP/1.1 200 OK\r\n\r\n"] := by
    cases width <;> decide +kernel
  have here := same plainHttp ⟨10, 19, 1⟩ [ascii "HTTP/1.1 200 OK\r\n\r\n"]
  cases toHead <;> cases toHead'
  · rfl
  · exact absurd here differ
  · exact absurd here.symm differ
  · rfl

/-- Two requests that differ only in how the method is spelled and serialize to the same head are treated alike, in the
framing of every response and in every redirect, if and only if both or neither are HEAD and, where redirects are
followed, both or neither are GET. -/
theorem respelled_alike {width : PointerWidth} {request : Request} {limits : HttpLimits}
    {upload : Option UploadFraming} {s s' : SerializedRequest} {method : Method}
    (sent : serializeRequestWithUpload width request limits upload = .ok s)
    (sent' : serializeRequestWithUpload width { request with method := method } limits upload = .ok s')
    (same : s'.bytes = s.bytes) :
    ((∀ http limits segments, decodeSegments width http (.new s'.responseToHead limits) 0 segments =
        decodeSegments width http (.new s.responseToHead limits) 0 segments) ∧
      ∀ status hops target, PlanAlike request { request with method := method }
        (planRedirect request status hops target)
        (planRedirect { request with method := method } status hops target)) ↔
    (method = .head ↔ request.method = .head) ∧
      (request.options.redirectLimit = 0 ∨ (method = .get ↔ request.method = .get)) := by
  have name := methodName_of_bytes sent sent' same
  obtain ⟨-, -, -, -, -, toHead⟩ := serialize_ok sent
  obtain ⟨-, -, -, -, -, toHead'⟩ := serialize_ok sent'
  rw [toHead, toHead']
  constructor
  · rintro ⟨framed, planned⟩
    have head : method = .head ↔ request.method = .head := decide_eq_decide.mp (responseToHead_of_decode framed)
    refine ⟨head, or_iff_not_imp_left.mpr fun limited => ?_⟩
    have alike := planned 301 0 fun _ => .error (.new .redirect "")
    rw [planRedirect_moved request limited, planRedirect_moved { request with method := method } limited] at alike
    have followed := alike.moved_iff
    constructor
    · rintro rfl
      rcases followed.mp (.inl rfl) with isGet | isHead
      · exact isGet
      · cases head.mpr isHead
    · intro isGet
      rcases followed.mpr (.inl isGet) with isGet | isHead
      · exact isGet
      · cases isGet.symm.trans (head.mp isHead)
  · rintro ⟨head, get⟩
    refine ⟨fun http limits segments => by rw [decide_eq_decide.mpr head], fun status hops target => ?_⟩
    rcases get with zero | get
    · rw [planRedirect_zero request zero, planRedirect_zero { request with method := method } zero]
      exact .stays
    · exact planRedirect_respelled name head get

def sampleRequest (method : Method) : Request := ⟨method, ascii "http://a/", [], [], 0, default⟩

def sampleHead (method : Method) : Except Error SerializedRequest :=
  serializeRequestWithUpload .bits64 (sampleRequest method) ⟨9, 99, 9⟩ none

def samplePlan (method : Method) (status : Nat) : Except Error (Option RequestRedirect) :=
  planRedirect (sampleRequest method) status 0 fun _ => .ok (some (ascii "http://b/"))

theorem respelled_alike_post : ∃ s s', sampleHead .post = .ok s ∧ sampleHead (.other (ascii "POST")) = .ok s' ∧
    s'.bytes = s.bytes ∧ PlanAlike (sampleRequest .post) (sampleRequest (.other (ascii "POST")))
      (samplePlan .post 307) (samplePlan (.other (ascii "POST")) 307) := by
  refine ⟨_, _, rfl, rfl, rfl, ?_⟩
  have alike := (respelled_alike (rfl : sampleHead .post = .ok ⟨_, _, _⟩)
    (rfl : sampleHead (.other (ascii "POST")) = .ok ⟨_, _, _⟩) rfl).mpr ⟨by decide, .inr (by decide)⟩
  exact alike.2 307 0 _

/-- An extension method that reads HEAD is sent as HEAD. But its response is taken to have a body, and a 303 response
makes it a GET. -/
theorem extension_head_diverges : ∃ s s', sampleHead .head = .ok s ∧ sampleHead (.other (ascii "HEAD")) = .ok s' ∧
    s'.bytes = s.bytes ∧
    bodyFraming ⟨9, 99, 9⟩ s.responseToHead 200 (some 1) false = .ok .none ∧
    bodyFraming ⟨9, 99, 9⟩ s'.responseToHead 200 (some 1) false = .ok (.fixed 1) ∧
    samplePlan .head 303 = .ok (some ⟨ascii "http://b/", .head, false, true⟩) ∧
    samplePlan (.other (ascii "HEAD")) 303 = .ok (some ⟨ascii "http://b/", .get, false, true⟩) :=
  ⟨_, _, rfl, rfl, rfl, rfl, rfl, rfl, rfl⟩

end NbReq
