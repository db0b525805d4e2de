import Mathlib.Data.ENat.Lattice
import SerumDex.Rpc.Client

namespace SerumDex

namespace Transport

variable {σ : Type}

/-- A transport that keeps the addresses that it is called with, which is all that a request says. -/
def recorded (t : Transport σ) : Transport (σ × List Address) := fun address r =>
  ((t address r.1).1, (t address r.1).2, r.2 ++ [address])

/-- The state of a transport after `i` calls with an address. -/
def after (t : Transport σ) (address : Address) (s : σ) : Nat → σ
  | 0 => s
  | i + 1 => (t address (t.after address s i)).2

/-- What the call after `i` others brings. -/
def exchange (t : Transport σ) (address : Address) (s : σ) (i : Nat) : Exchange :=
  (t address (t.after address s i)).1

variable (t : Transport σ) (address : Address) (s : σ)

theorem after_recorded (i : Nat) : t.recorded.after address (s, []) i =
    (t.after address s i, List.replicate i address) := by
  induction i with
  | zero => rfl
  | succ i ih => rw [after, ih, recorded, ← List.replicate_succ', after]

theorem exchange_recorded (i : Nat) :
    t.recorded.exchange address (s, []) i = t.exchange address s i := by
  rw [exchange, after_recorded]
  rfl

end Transport

/-- The failures after which the same request is made again: no exchange came about, or the node
reported an error. An answer is final, and so is a result that cannot be read. -/
inductive MayPass : Except RpcFailure (Option NodeAccount) → Prop
  | invalidEndpoint (endpoint : Option String) : MayPass (.error (.invalidEndpoint endpoint))
  | unreachable (endpoint : String) : MayPass (.error (.unreachable endpoint))
  | refused (status : Nat) (reason endpoint : String) :
      MayPass (.error (.refused status reason endpoint))
  | undecodableBody : MayPass (.error .undecodableBody)
  | response (code : Int) (message : String) : MayPass (.error (.response code message))
  | unreadableError (text : String) (fault : Json.ReadFault) :
      MayPass (.error (.unreadableError text fault))

theorem mayPass_error_iff {e : RpcFailure} : MayPass (.error e) ↔ e.isRetryable = true := by
  constructor
  · intro h
    cases h <;> rfl
  · intro h
    cases e with
    | invalidEndpoint endpoint => exact .invalidEndpoint endpoint
    | unreachable endpoint => exact .unreachable endpoint
    | refused status reason endpoint => exact .refused status reason endpoint
    | undecodableBody => exact .undecodableBody
    | response code message => exact .response code message
    | unreadableError text fault => exact .unreadableError text fault
    | unreadableResult fault => exact nomatch h

theorem not_mayPass_ok (account : Option NodeAccount) : ¬ MayPass (.ok account) :=
  fun h => nomatch h

/-- What a failure of the last request is reported as: the exchange failed, or what the node said is
of no use. -/
inductive FailsAs (address : Address) : RpcFailure → FetchError → Prop
  | invalidEndpoint (endpoint : Option String) : FailsAs address (.invalidEndpoint endpoint)
      (.transport address (RpcFailure.invalidEndpoint endpoint).message)
  | unreachable (endpoint : String) : FailsAs address (.unreachable endpoint)
      (.transport address (RpcFailure.unreachable endpoint).message)
  | refused (status : Nat) (reason endpoint : String) :
      FailsAs address (.refused status reason endpoint)
        (.transport address (RpcFailure.refused status reason endpoint).message)
  | undecodableBody : FailsAs address .undecodableBody
      (.transport address RpcFailure.undecodableBody.message)
  | response (code : Int) (message : String) : FailsAs address (.response code message)
      (.rpc address (RpcFailure.response code message).message)
  | unreadableError (text : String) (fault : Json.ReadFault) :
      FailsAs address (.unreadableError text fault)
        (.rpc address (RpcFailure.unreadableError text fault).message)
  | unreadableResult (fault : Json.ReadFault) : FailsAs address (.unreadableResult fault)
      (.rpc address (RpcFailure.unreadableResult fault).message)

theorem failsAs_failure (address : Address) (e : RpcFailure) :
    FailsAs address e (RpcClient.failure address e) := by
  cases e with
  | invalidEndpoint endpoint => exact .invalidEndpoint endpoint
  | unreachable endpoint => exact .unreachable endpoint
  | refused status reason endpoint => exact .refused status reason endpoint
  | undecodableBody => exact .undecodableBody
  | response code message => exact .response code message
  | unreadableError text fault => exact .unreadableError text fault
  | unreadableResult fault => exact .unreadableResult fault

/-- The account that a client returns for an address, by the last outcome of its requests. -/
inductive Returns (address : Address) : Except RpcFailure (Option NodeAccount) →
    Except FetchError (Option NodeAccount) → Prop
  | answer (account : Option NodeAccount) : Returns address (.ok account) (.ok account)
  | failure {e : RpcFailure} {reported : FetchError} (h : FailsAs address e reported) :
      Returns address (.error e) (.error reported)

/-- The bytes that a client hands over for an address, by the last outcome of its requests. -/
inductive HandsOver (address : Address) :
    Except RpcFailure (Option NodeAccount) → Except FetchError Bytes → Prop
  | bytes {account : NodeAccount} {text : String} {bs : Bytes}
      (hdata : account.data = .encoded text .base64)
      (hdecoded : Base64.decode text.toUTF8.toList = .ok bs) :
      HandsOver address (.ok (some account)) (.ok bs)
  | undecodable {account : NodeAccount} {message : String}
      (hdata : ∀ text bs, account.data = .encoded text .base64 →
        Base64.decode text.toUTF8.toList ≠ .ok bs) :
      HandsOver address (.ok (some account)) (.error (.rpc address message))
  | missing : HandsOver address (.ok none) (.error (.notFound address))
  | failure {e : RpcFailure} {reported : FetchError} (h : FailsAs address e reported) :
      HandsOver address (.error e) (.error reported)

section HandsOver

variable {address : Address}

theorem handsOver_bytes (account : NodeAccount) :
    HandsOver address (.ok (some account)) (account.data.bytes address) := by
  unfold AccountData.bytes
  split
  · next text hdata =>
    cases hdecode : Base64.decode text.toUTF8.toList with
    | ok bs => exact .bytes hdata hdecode
    | error fault =>
      apply HandsOver.undecodable
      intro text' bs hdata' hdecode'
      -- The data hold one text, and this text does not decode.
      rw [hdata] at hdata'
      cases hdata'
      exact nomatch hdecode.symm.trans hdecode'
  · next other hother =>
    apply HandsOver.undecodable
    intro text bs hdata _
    exact hother text hdata

theorem HandsOver.eq_ok {account : NodeAccount} {bs : Bytes} {result : Except FetchError Bytes}
    (h : HandsOver address (.ok (some account)) result)
    (hbytes : account.data.bytes address = .ok bs) : result = .ok bs := by
  cases h with
  | bytes hdata hdecoded =>
    rw [hdata, AccountData.bytes, hdecoded] at hbytes
    exact hbytes
  | undecodable hdata =>
    unfold AccountData.bytes at hbytes
    split at hbytes
    · next text htext =>
      cases hdecode : Base64.decode text.toUTF8.toList with
      | ok bs' => exact absurd hdecode (hdata text bs' htext)
      | error fault =>
        rw [hdecode] at hbytes
        exact nomatch hbytes
    · exact nomatch hbytes

theorem Returns.handsOver {outcome : Except RpcFailure (Option NodeAccount)}
    {account : Except FetchError (Option NodeAccount)} (h : Returns address outcome account) :
    HandsOver address outcome (RpcClient.accountBytes address account) := by
  cases h with
  | answer account =>
    cases account with
    | none => exact .missing
    | some account => exact handsOver_bytes account
  | failure h => exact .failure h

end HandsOver

namespace RpcClient

section Outcomes

variable {σ : Type} (t : Transport σ) (c : RpcClient) (address : Address) (s : σ)

/-- What the request after `i` others comes to, by what the transport brings. Without an endpoint no
request gets as far as the transport, and each of them fails. -/
def outcome (i : Nat) : Except RpcFailure (Option NodeAccount) :=
  match c.endpoint with
  | .error e => .error e
  | .ok url => (t.exchange address s i).outcome url.text

/-- The state that `i` requests leave. -/
def stateAfter (i : Nat) : σ :=
  match c.endpoint with
  | .error _ => s
  | .ok _ => t.after address s i

/-- What `i` requests leave of a transport, with the addresses that it was called with. -/
def callsAfter (i : Nat) : σ × List Address :=
  match c.endpoint with
  | .error _ => (s, [])
  | .ok _ => (t.after address s i, List.replicate i address)

/-- The number of failures that may pass before the first outcome of another kind. -/
noncomputable def leadingFailures : ℕ∞ :=
  ⨅ i ∈ {i | ¬ MayPass (c.outcome t address s i)}, (i : ℕ∞)

theorem attempt_stateAfter (i : Nat) : c.attempt t address (c.stateAfter t address s i) =
    (c.outcome t address s i, c.stateAfter t address s (i + 1)) := by
  unfold attempt stateAfter outcome
  cases c.endpoint <;> rfl

theorem stateAfter_zero : c.stateAfter t address s 0 = s := by
  unfold stateAfter
  cases c.endpoint <;> rfl

theorem stateAfter_recorded (i : Nat) :
    c.stateAfter t.recorded address (s, []) i = c.callsAfter t address s i := by
  unfold stateAfter callsAfter
  rw [t.after_recorded]

theorem outcome_recorded (i : Nat) :
    c.outcome t.recorded address (s, []) i = c.outcome t address s i := by
  unfold outcome
  rw [t.exchange_recorded]

theorem fst_callsAfter (i : Nat) : (c.callsAfter t address s i).1 = c.stateAfter t address s i := by
  unfold callsAfter stateAfter
  cases c.endpoint <;> rfl

/-- A number of retries after which the loop ends: every outcome before calls for another request,
and the outcome then does not, or the retries are used up. -/
structure EndsAfter (n : Nat) : Prop where
  le_max : n ≤ c.maxRetries.toNat
  retried : ∀ i < n, MayPass (c.outcome t address s i)
  ends : n = c.maxRetries.toNat ∨ ¬ MayPass (c.outcome t address s n)

open Classical in
theorem exists_endsAfter : ∃ n, EndsAfter t c address s n := by
  have hexists : ∃ n, n = c.maxRetries.toNat ∨ ¬ MayPass (c.outcome t address s n) :=
    ⟨_, .inl rfl⟩
  refine ⟨Nat.find hexists, Nat.find_min' hexists (.inl rfl), ?_, Nat.find_spec hexists⟩
  intro i hi
  -- An earlier outcome of another kind would have ended the loop.
  have hmin := Nat.find_min hexists hi
  rw [not_or, not_not] at hmin
  exact hmin.2

variable {t c address s} {n : Nat}

theorem natCast_le_leadingFailures_iff {m : Nat} :
    (m : ℕ∞) ≤ c.leadingFailures t address s ↔ ∀ i < m, MayPass (c.outcome t address s i) := by
  unfold leadingFailures
  rw [le_iInf₂_iff]
  constructor
  · intro h i hi
    by_contra hpass
    exact absurd (Nat.cast_le.mp (h i hpass)) (Nat.not_le.mpr hi)
  · intro h i hpass
    have hle : m ≤ i := by
      by_contra hlt
      exact hpass (h i (Nat.lt_of_not_le hlt))
    exact Nat.cast_le.mpr hle

/-- The retries are the leading failures that may pass, as far as there are retries. -/
theorem EndsAfter.eq_min (hends : EndsAfter t c address s n) :
    (n : ℕ∞) = min (c.leadingFailures t address s) c.maxRetries.toNat := by
  apply le_antisymm
  · apply le_min
    · exact natCast_le_leadingFailures_iff.mpr hends.retried
    · exact Nat.cast_le.mpr hends.le_max
  -- The loop ends where one of the two bounds is reached.
  · rcases hends.ends with hn | hend
    · rw [hn]
      exact min_le_right _ _
    · exact (min_le_left _ _).trans (iInf₂_le n hend)

theorem EndsAfter.recorded (hends : EndsAfter t c address s n) :
    EndsAfter t.recorded c address (s, []) n where
  le_max := hends.le_max
  retried i hi := by
    rw [outcome_recorded]
    exact hends.retried i hi
  ends := by
    rw [outcome_recorded]
    exact hends.ends

end Outcomes

section Retrying

variable {σ : Type} {t : Transport σ} {c : RpcClient} {address : Address} {s : σ} {n : Nat}

theorem retrying_of_mayPass (retries : Nat) (h : MayPass (c.attempt t address s).1) :
    retrying RpcFailure.isRetryable (c.attempt t address) (retries + 1) s =
      retrying RpcFailure.isRetryable (c.attempt t address) retries
        (c.attempt t address s).2 := by
  rw [retrying]
  rcases hattempt : c.attempt t address s with ⟨outcome, s'⟩
  rw [hattempt] at h
  cases outcome with
  | ok account => exact absurd h (not_mayPass_ok account)
  | error e => exact if_pos (mayPass_error_iff.mp h)

theorem retrying_of_end {retries : Nat}
    (h : retries = 0 ∨ ¬ MayPass (c.attempt t address s).1) :
    retrying RpcFailure.isRetryable (c.attempt t address) retries s = c.attempt t address s := by
  cases retries with
  | zero => rfl
  | succ retries =>
    have hend := h.resolve_left (Nat.succ_ne_zero retries)
    rw [retrying]
    rcases hattempt : c.attempt t address s with ⟨outcome, s'⟩
    rw [hattempt] at hend
    cases outcome with
    | ok account => rfl
    | error e => exact if_neg fun he => hend (mayPass_error_iff.mpr he)

/-- After `i` failures that may pass the client has `i` retries less. -/
theorem retrying_after (hends : EndsAfter t c address s n) {i : Nat} (hi : i ≤ n) :
    retrying RpcFailure.isRetryable (c.attempt t address) c.maxRetries.toNat s =
      retrying RpcFailure.isRetryable (c.attempt t address) (c.maxRetries.toNat - i)
        (c.stateAfter t address s i) := by
  induction i with
  | zero => rw [stateAfter_zero, Nat.sub_zero]
  | succ i ih =>
    have hmax := hends.le_max
    have hleft : c.maxRetries.toNat - i = c.maxRetries.toNat - (i + 1) + 1 := by omega
    have hattempt := c.attempt_stateAfter t address s i
    have hpass : MayPass (c.attempt t address (c.stateAfter t address s i)).1 := by
      rw [hattempt]
      exact hends.retried i hi
    calc
      retrying RpcFailure.isRetryable (c.attempt t address) c.maxRetries.toNat s =
          retrying RpcFailure.isRetryable (c.attempt t address) (c.maxRetries.toNat - i)
            (c.stateAfter t address s i) := ih (by omega)
      _ = retrying RpcFailure.isRetryable (c.attempt t address)
            (c.maxRetries.toNat - (i + 1) + 1) (c.stateAfter t address s i) := by rw [hleft]
      _ = retrying RpcFailure.isRetryable (c.attempt t address) (c.maxRetries.toNat - (i + 1))
            (c.attempt t address (c.stateAfter t address s i)).2 := retrying_of_mayPass _ hpass
      _ = retrying RpcFailure.isRetryable (c.attempt t address) (c.maxRetries.toNat - (i + 1))
            (c.stateAfter t address s (i + 1)) := by rw [hattempt]

theorem retrying_eq (hends : EndsAfter t c address s n) :
    retrying RpcFailure.isRetryable (c.attempt t address) c.maxRetries.toNat s =
      (c.outcome t address s n, c.stateAfter t address s (n + 1)) := by
  have hattempt := c.attempt_stateAfter t address s n
  have hlast : c.maxRetries.toNat - n = 0 ∨
      ¬ MayPass (c.attempt t address (c.stateAfter t address s n)).1 := by
    rw [hattempt]
    rcases hends.ends with hn | hend
    · exact .inl (by omega)
    · exact .inr hend
  rw [retrying_after hends (Nat.le_refl n), retrying_of_end hlast, hattempt]

theorem getAccount_eq (hends : EndsAfter t c address s n) :
    c.getAccount t address s = ((c.outcome t address s n).mapError (failure address),
      c.stateAfter t address s (n + 1)) := by
  rw [getAccount, retrying_eq hends]

theorem returns_mapError (outcome : Except RpcFailure (Option NodeAccount)) :
    Returns address outcome (outcome.mapError (failure address)) := by
  cases outcome with
  | ok account => exact .answer account
  | error e => exact .failure (failsAs_failure address e)

end Retrying

/-- The loop of a client between two requests. -/
structure Polling (σ : Type) where
  state : σ
  /-- The retries so far, in a word of eight bits. -/
  retries : UInt8
  answer? : Option (Except RpcFailure (Option NodeAccount))

/-- The number of retries after one more, unless its word overflows. -/
def oneMore? (retries : UInt8) : Option UInt8 :=
  if retries.toNat + 1 < UInt8.size then some (.ofNat (retries.toNat + 1)) else none

section Loop

variable {σ : Type} (t : Transport σ) (c : RpcClient) (address : Address)

def start (s : σ) : Polling σ := ⟨s, .ofNat 0, none⟩

/-- One turn of the loop, if its counter holds. A loop that has its answer stays as it is. -/
def turn (p : Polling σ) : Option (Polling σ) :=
  match p.answer? with
  | some _ => some p
  | none =>
    match c.attempt t address p.state with
    | (.ok account, s) => some ⟨s, p.retries, some (.ok account)⟩
    | (.error e, s) =>
      if e.isRetryable ∧ p.retries < c.maxRetries then
        (oneMore? p.retries).map fun retries => ⟨s, retries, none⟩
      else some ⟨s, p.retries, some (.error e)⟩

def turns : Nat → Polling σ → Option (Polling σ)
  | 0, p => some p
  | n + 1, p => (turns n p).bind (c.turn t address)

variable {t c address} {s : σ} {n : Nat}

/-- The number of retries is a word itself, so a counter up to it holds. -/
theorem toNat_ofNat_retries (h : n ≤ c.maxRetries.toNat) : (UInt8.ofNat n).toNat = n :=
  UInt8.toNat_ofNat_of_lt (Nat.lt_of_le_of_lt h c.maxRetries.toNat_lt)

theorem oneMore?_ofNat (h : n < c.maxRetries.toNat) :
    oneMore? (.ofNat n) = some (.ofNat (n + 1)) := by
  have hroom : n + 1 < UInt8.size := Nat.lt_of_le_of_lt h c.maxRetries.toNat_lt
  rw [oneMore?, toNat_ofNat_retries (Nat.le_of_lt h), if_pos hroom]

theorem ofNat_lt_iff (h : n ≤ c.maxRetries.toNat) :
    UInt8.ofNat n < c.maxRetries ↔ n < c.maxRetries.toNat := by
  rw [UInt8.lt_iff_toNat_lt, toNat_ofNat_retries h]

/-- After a failure that may pass the loop goes on, if it has a retry left. -/
theorem turn_of_mayPass (hn : n < c.maxRetries.toNat) (hpass : MayPass (c.outcome t address s n)) :
    c.turn t address ⟨c.stateAfter t address s n, .ofNat n, none⟩ =
      some ⟨c.stateAfter t address s (n + 1), .ofNat (n + 1), none⟩ := by
  simp only [turn, c.attempt_stateAfter t address s n]
  cases houtcome : c.outcome t address s n with
  | ok account =>
    rw [houtcome] at hpass
    exact absurd hpass (not_mayPass_ok account)
  | error e =>
    rw [houtcome] at hpass
    have hleft : UInt8.ofNat n < c.maxRetries := (ofNat_lt_iff (Nat.le_of_lt hn)).mpr hn
    simp only [if_pos (And.intro (mayPass_error_iff.mp hpass) hleft), oneMore?_ofNat hn]
    rfl

theorem turn_of_end (hle : n ≤ c.maxRetries.toNat)
    (hend : n = c.maxRetries.toNat ∨ ¬ MayPass (c.outcome t address s n)) :
    c.turn t address ⟨c.stateAfter t address s n, .ofNat n, none⟩ =
      some ⟨c.stateAfter t address s (n + 1), .ofNat n, some (c.outcome t address s n)⟩ := by
  simp only [turn, c.attempt_stateAfter t address s n]
  cases houtcome : c.outcome t address s n with
  | ok account => rfl
  | error e =>
    have hstop : ¬ (e.isRetryable = true ∧ UInt8.ofNat n < c.maxRetries) := by
      rintro ⟨hretryable, hlt⟩
      have hleft := (ofNat_lt_iff hle).mp hlt
      rcases hend with hn | hfinal
      · omega
      · rw [houtcome] at hfinal
        exact hfinal (mayPass_error_iff.mpr hretryable)
    exact if_neg hstop

/-- Each outcome that may pass brings one more retry. -/
theorem turns_of_le (hends : EndsAfter t c address s n) {m : Nat} (hm : m ≤ n) :
    c.turns t address m (start s) = some ⟨c.stateAfter t address s m, .ofNat m, none⟩ := by
  induction m with
  | zero => rw [stateAfter_zero]; rfl
  | succ m ih =>
    have hmax := hends.le_max
    rw [turns, ih (by omega), Option.bind_some]
    exact turn_of_mayPass (by omega) (hends.retried m hm)

/-- Once the loop has its answer, no turn changes anything. -/
theorem turns_of_lt (hends : EndsAfter t c address s n) {m : Nat} (hm : n < m) :
    c.turns t address m (start s) =
      some ⟨c.stateAfter t address s (n + 1), .ofNat n, some (c.outcome t address s n)⟩ := by
  -- The answer comes with the turn after `n` others, and stays.
  induction m, hm using Nat.le_induction with
  | base =>
    rw [turns, turns_of_le hends (Nat.le_refl n), Option.bind_some]
    exact turn_of_end hends.le_max hends.ends
  | succ m _ ih =>
    rw [turns, ih, Option.bind_some]
    rfl

end Loop

section Result

variable {σ : Type} (t : Transport σ) (c : RpcClient) (address : Address) (s : σ)

/-- A client calls its transport again after each failure that may pass, as long as it has retries,
and after no other outcome. Its counter never overflows, all calls are for the same address, the last
outcome is what is returned, and the bytes are those of the answer: no other call is made for them. -/
theorem getAccount_retries :
    ∃ n : ℕ, (n : ℕ∞) = min (c.leadingFailures t address s) c.maxRetries.toNat ∧
      (∀ i < n, MayPass (c.outcome t address s i)) ∧
      (∀ m ≤ n, c.turns t.recorded address m (start (s, [])) =
        some ⟨c.callsAfter t address s m, .ofNat m, none⟩) ∧
      (∀ m > n, c.turns t.recorded address m (start (s, [])) =
        some ⟨c.callsAfter t address s (n + 1), .ofNat n, some (c.outcome t address s n)⟩) ∧
      ∃ account bytes,
        c.getAccount t.recorded address (s, []) = (account, c.callsAfter t address s (n + 1)) ∧
        c.source t.recorded address (s, []) = (bytes, c.callsAfter t address s (n + 1)) ∧
        c.getAccount t address s = (account, (c.callsAfter t address s (n + 1)).1) ∧
        c.source t address s = (bytes, (c.callsAfter t address s (n + 1)).1) ∧
        Returns address (c.outcome t address s n) account ∧
        HandsOver address (c.outcome t address s n) bytes := by
  obtain ⟨n, hends⟩ := exists_endsAfter t c address s
  have hreturns : Returns address (c.outcome t address s n)
      ((c.outcome t address s n).mapError (failure address)) := returns_mapError _
  have hkept := getAccount_eq hends.recorded
  have hplain := getAccount_eq hends
  rw [outcome_recorded, stateAfter_recorded] at hkept
  rw [← fst_callsAfter] at hplain
  refine ⟨n, hends.eq_min, hends.retried, ?_, ?_, _, _, hkept, ?_, hplain, ?_, hreturns,
    hreturns.handsOver⟩
  · intro m hm
    rw [turns_of_le hends.recorded hm, stateAfter_recorded]
  · intro m hm
    rw [turns_of_lt hends.recorded hm, stateAfter_recorded, outcome_recorded]
  · rw [source, hkept]
  · rw [source, hplain]

end Result

section Sample

/-- The reply of a node that has three bytes at an address. -/
def sampleReply : HttpReply :=
  let account : Json := .object [("lamports", .nat 1), ("data", .array [.text "AQID", .text "base64"]),
    ("owner", .text "11111111111111111111111111111111"), ("executable", .bool false),
    ("rentEpoch", .nat 0)]
  let result : Json := .object [("context", .object [("slot", .nat 1)]), ("value", account)]
  ⟨200, "OK", (Json.object [("jsonrpc", .text "2.0"), ("result", result)]).compact⟩

/-- A node that is unreachable twice. -/
def slowNode : Transport Nat := fun _ calls =>
  (if calls < 2 then .unreachable else .reply sampleReply, calls + 1)

def sampleClient : RpcClient := ⟨"http://n", 5⟩

def askedAddress : Address := ⟨List.replicate 32 1, rfl⟩

theorem special?_n : Url.Host.special? ['n'] = some (.domain "n") := by
  have hsplit : (String.ofList ['n']).splitOn "." = ["n"] := by
    rw [String.splitOn, if_neg (by decide), String.splitOnAux, if_neg (by decide +kernel),
      if_neg (by decide +kernel), String.splitOnAux, if_pos (by decide +kernel)]
    decide +kernel
  have hname : Url.asciiDomain? ['n'] = some ['n'] := by
    have hchars : ['n'].flatMap Url.domainChar = ['n'] := by decide +kernel
    simp only [Url.asciiDomain?, hchars, hsplit]
    decide +kernel
  have hnumber : Url.endsInNumber ['n'] = false := by
    simp only [Url.endsInNumber, Url.parts4, hsplit]
    decide +kernel
  have hdecode : Url.decode? ['n'] = some ['n'] := by decide +kernel
  simp [Url.Host.special?, Url.Host.ofBrackets?, hdecode, hname, hnumber]

theorem endpoint_sampleClient : ∃ url, sampleClient.endpoint = .ok url := by
  have hhost : Url.readHost? .web ['n'] = some (some (.domain "n")) := by
    change (Url.Host.special? ['n']).map some = _
    rw [special?_n]
    rfl
  have hauthority : Url.readAuthority? "http" ['n'] =
      some (⟨[], [], some (.domain "n"), none⟩, []) := by
    change Option.bind (Url.readHost? .web ['n']) _ = _
    rw [hhost]
    rfl
  have hurl : Url.ofText? "http://n" =
      some ⟨"http", some ⟨[], [], some (.domain "n"), none⟩, ['/'], none, none⟩ := by
    have hscheme : Url.readScheme? (Url.trimmed "http://n") = some ("http", ['/', '/', 'n']) := by
      decide +kernel
    unfold Url.ofText?
    rw [hscheme]
    change Option.bind (Url.readAuthority? "http" ['n']) _ = _
    rw [hauthority]
    rfl
  unfold endpoint
  rw [show Url.ofText? sampleClient.url = _ from hurl]
  exact ⟨_, if_pos (by decide +kernel)⟩

theorem readBody_sampleReply : ∃ account, readBody sampleReply.body = .ok (some account) ∧
    account.data.bytes askedAddress = .ok [1, 2, 3] := by
  have hread : (readBody sampleReply.body).toOption.join.bind
      (fun account => (account.data.bytes askedAddress).toOption) = some [1, 2, 3] := by
    decide +kernel
  obtain ⟨account, haccount, hbytes⟩ := Option.bind_eq_some_iff.mp hread
  have hof {ε α : Type} {result : Except ε α} {a : α} (h : result.toOption = some a) :
      result = .ok a := by
    cases result with
    | error e => exact nomatch h
    | ok a' => exact congrArg Except.ok (Option.some.inj h)
  exact ⟨account, hof (Option.join_eq_some_iff.mp haccount), hof hbytes⟩

/-- The third call is answered, and no other one is made. -/
theorem getAccount_retries_of_slow_node :
    sampleClient.source slowNode.recorded askedAddress (0, []) =
      (.ok [1, 2, 3], 3, [askedAddress, askedAddress, askedAddress]) := by
  obtain ⟨url, hurl⟩ := endpoint_sampleClient
  have houtcome (i : Nat) : sampleClient.outcome slowNode askedAddress 0 i =
      (slowNode.exchange askedAddress 0 i).outcome url.text := by
    rw [outcome, hurl]
  have hfirst : ∀ i < 2, MayPass (sampleClient.outcome slowNode askedAddress 0 i) := by
    intro i hi
    rw [houtcome]
    match i, hi with
    | 0, _ => exact .unreachable _
    | 1, _ => exact .unreachable _
  obtain ⟨account, hread, hbytes⟩ := readBody_sampleReply
  have hthird : sampleClient.outcome slowNode askedAddress 0 2 = .ok (some account) := by
    have hexchange : slowNode.exchange askedAddress 0 2 = .reply sampleReply := rfl
    rw [houtcome, hexchange, Exchange.outcome, if_neg (by decide), hread]
  obtain ⟨n, hmin, hpass, _, _, _, bytes, _, hsource, _, _, _, hands⟩ :=
    getAccount_retries slowNode sampleClient askedAddress 0
  -- Two failures may pass, and the third outcome is an answer: the client has retried twice.
  have hge : 2 ≤ n := by
    have hleading : (2 : ℕ∞) ≤ sampleClient.leadingFailures slowNode askedAddress 0 :=
      natCast_le_leadingFailures_iff.mpr hfirst
    have hmax : (2 : ℕ∞) ≤ sampleClient.maxRetries.toNat := by decide
    exact Nat.cast_le.mp ((le_min hleading hmax).trans_eq hmin.symm)
  have hle : n ≤ 2 := by
    by_contra hlt
    have hthirdPass := hpass 2 (Nat.lt_of_not_le hlt)
    rw [hthird] at hthirdPass
    exact not_mayPass_ok _ hthirdPass
  obtain rfl : n = 2 := Nat.le_antisymm hle hge
  rw [hthird] at hands
  rw [hsource, callsAfter, hurl, hands.eq_ok hbytes]
  rfl

end Sample

end RpcClient
end SerumDex
