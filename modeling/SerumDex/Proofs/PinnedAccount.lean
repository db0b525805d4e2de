import SerumDex.Proofs.BuildOutcome
import SerumDex.Proofs.DeskInvariant

namespace SerumDex

variable {σ : Type}

/-- A call of a builder, with the workspace it is made in. A reload is made on a market. -/
structure Call (σ : Type) where
  builder : SnapshotBuilder
  workspace : Workspace σ
  onto : Option Market

namespace Call

/-- The market that is handed out or reloaded, with what is left of the builder and the workspace. -/
def run (source : Source σ) (c : Call σ) :
    (Except SnapshotError Market × SnapshotBuilder) × Workspace σ :=
  match c.onto with
  | none => (c.builder.build source).run c.workspace
  | some m =>
    match (c.builder.reload source m).run c.workspace with
    | ((.error e, _, b), w) => ((.error e, b), w)
    | ((.ok (), m', b), w) => ((.ok m', b), w)

def outcome (source : Source σ) (c : Call σ) : Except SnapshotError Market := (c.run source).1.1

/-- What the call pins, or what was pinned before it. -/
def pins (source : Source σ) (c : Call σ) : Option Bytes := (c.run source).1.2.pinned

/-- The fetches of the market account itself, which are the first step of a call. -/
def marketFetches (source : Source σ) (c : Call σ) : List Fetch :=
  c.workspace.since (c.run source).2 .market

/-- The call asked for the market account once, and failed. -/
structure Failed (source : Source σ) (c : Call σ) : Prop where
  asked : ∃ answer, c.marketFetches source = [⟨.market, c.builder.address, answer⟩]
  failed : ∃ e, c.outcome source = .error e
  unpinned : c.pins source = none

/-- The call asked for the market account once, succeeded, and pinned the bytes that came back. -/
structure Pinning (source : Source σ) (data : Bytes) (c : Call σ) : Prop where
  asked : c.marketFetches source = [⟨.market, c.builder.address, .ok data⟩]
  succeeded : ∃ m, c.outcome source = .ok m
  pinned : c.pins source = some data
  fields : ∀ m, c.outcome source = .ok m → (∀ old ∈ c.onto, old.DecodedFrom data) →
    m.DecodedFrom data

/-- The call used bytes that are pinned already. -/
structure Settled (source : Source σ) (data : Bytes) (c : Call σ) : Prop where
  unasked : c.marketFetches source = []
  firstStep : (c.builder.marketData source).run c.workspace = (.ok data, c.workspace)
  pinned : c.pins source = some data
  fields : ∀ m, c.outcome source = .ok m → (∀ old ∈ c.onto, old.DecodedFrom data) →
    m.DecodedFrom data
  decodes : ∀ address cause, c.outcome source ≠ .error (.decode "Market" address cause)

/-- The market that a call hands out, given the one that was built. -/
def place (c : Call σ) (fresh : Market) : Market := c.onto.elim fresh fun m => m.replaceLive fresh

theorem run_eq (source : Source σ) (c : Call σ) :
    c.run source = (((c.builder.build source).run c.workspace).1.map (Except.map c.place) id,
      ((c.builder.build source).run c.workspace).2) := by
  obtain ⟨b, w, onto⟩ := c
  rcases hbuild : (b.build source).run w with ⟨⟨result, b'⟩, w'⟩
  cases onto with
  | none =>
    change (b.build source).run w = _
    rw [hbuild]
    cases result <;> rfl
  | some m =>
    cases result with
    | error e =>
      simp only [run, reload_of_error hbuild m]
      rfl
    | ok fresh =>
      simp only [run, reload_of_ok hbuild m]
      rfl

variable {source : Source σ} {c : Call σ} {data : Bytes}

theorem outcome_eq (source : Source σ) (c : Call σ) :
    c.outcome source = ((c.builder.build source).run c.workspace).1.1.map c.place := by
  unfold outcome
  rw [run_eq]
  rfl

theorem pins_eq (source : Source σ) (c : Call σ) :
    c.pins source = ((c.builder.build source).run c.workspace).1.2.pinned := by
  unfold pins
  rw [run_eq]
  rfl

theorem marketFetches_eq (source : Source σ) (c : Call σ) :
    c.marketFetches source = if c.builder.pinned = none then
      [⟨.market, c.builder.address, (source c.builder.address c.workspace.source).1⟩] else [] := by
  unfold marketFetches
  rw [run_eq]
  change c.workspace.since ((c.builder.build source).run c.workspace).2 .market = _
  rw [SnapshotBuilder.since_build, SnapshotBuilder.since_marketData,
    Request.since_afterAll_market, List.append_nil]
  simp only [and_true]

theorem decodedFrom_place {fresh : Market} (hfresh : fresh.DecodedFrom data)
    (hold : ∀ old ∈ c.onto, old.DecodedFrom data) : (c.place fresh).DecodedFrom data := by
  unfold place
  cases ho : c.onto with
  | none => exact hfresh
  | some old =>
    obtain ⟨m₀, hm, hrecord, hflags⟩ := hold old ho
    exact ⟨m₀, hm, hrecord, hflags⟩

/-- A call that succeeds hands out the fields of the bytes that it has pinned. -/
theorem fields_of_pins (hp : c.pins source = some data) {m : Market}
    (hm : c.outcome source = .ok m) (hold : ∀ old ∈ c.onto, old.DecodedFrom data) :
    m.DecodedFrom data := by
  rw [outcome_eq] at hm
  rw [pins_eq] at hp
  rcases hbuild : (c.builder.build source).run c.workspace with ⟨⟨result, b'⟩, w'⟩
  rw [hbuild] at hm hp
  cases result with
  | error e => exact nomatch hm
  | ok fresh =>
    obtain ⟨data', hb', _, hsnapshot⟩ := build_ok hbuild
    rw [hb'] at hp
    rw [Option.some.inj hp] at hsnapshot
    rw [← Except.ok.inj hm]
    exact decodedFrom_place hsnapshot.account hold

variable (source) in
theorem settled_of_pinned (hp : c.builder.pinned = some data) {m₀ : Market}
    (hm : decodeMarket data = .ok m₀) : c.Settled source data := by
  have hfirst := SnapshotBuilder.marketData_of_pinned source hp c.workspace
  have hpins : c.pins source = some data := by
    rw [pins_eq]
    exact build_keeps_pinned source hp c.workspace
  refine ⟨?_, hfirst, hpins, fun m => fields_of_pins hpins, ?_⟩
  · rw [marketFetches_eq, hp]
    rfl
  · intro address cause h
    have hbuild : ((c.builder.build source).run c.workspace).1.1 =
        .error (.decode "Market" address cause) := by
      rw [outcome_eq] at h
      cases hresult : ((c.builder.build source).run c.workspace).1.1 with
      | ok m =>
        rw [hresult] at h
        exact nomatch h
      | error e =>
        rw [hresult] at h
        rw [Except.error.inj h]
    -- The account that did not decode would be one of a live part, none of which has that name.
    obtain ⟨p, _, hname, _⟩ := part_of_decode_error hfirst hm hbuild
    cases p <;> exact absurd hname (by decide)

variable (source) in
/-- Without pinned bytes a call either fails, and nothing is pinned, or it pins what it got. -/
theorem failed_or_pinning (hp : c.builder.pinned = none) :
    c.Failed source ∨ ∃ data, c.Pinning source data ∧ ∃ m₀, decodeMarket data = .ok m₀ := by
  have hasked := c.marketFetches_eq source
  rw [if_pos hp] at hasked
  have houtcome := c.outcome_eq source
  have hpins := c.pins_eq source
  rcases hbuild : (c.builder.build source).run c.workspace with ⟨⟨result, b'⟩, w'⟩
  rw [hbuild] at houtcome hpins
  cases result with
  | error e =>
    refine .inl ⟨⟨_, hasked⟩, ⟨e, houtcome⟩, ?_⟩
    rw [hpins, build_error hbuild]
    exact hp
  | ok fresh =>
    obtain ⟨data, w₁, hdata, hassemble, hb'⟩ := SnapshotBuilder.build_ok_uses hbuild
    obtain ⟨m₀, hm, _, _⟩ := (assemble_ok hassemble).account
    rw [hb'] at hpins
    rw [SnapshotBuilder.marketData_of_unpinned source hp] at hdata
    have hanswer : (source c.builder.address c.workspace.source).1 = .ok data :=
      congrArg Prod.fst hdata
    rw [hanswer] at hasked
    exact .inr ⟨data, ⟨hasked, ⟨_, houtcome⟩, hpins, fun m => fields_of_pins hpins⟩, m₀, hm⟩

end Call

namespace Desk

/-- The call that an action makes, if it makes one, with the number of its builder. -/
def call? (d : Desk σ) : Action σ → Option (Nat × Call σ)
  | .build i => d.builders[i]?.map fun b => (i, ⟨b, d.workspace, none⟩)
  | .reload i k =>
    match d.builders[i]?, d.issued[k]? with
    | some b, some r =>
      if r.builder = i then some (i, ⟨b, d.workspace, some r.market⟩) else none
    | _, _ => none
  | .reloadOther i m => d.builders[i]?.map fun b => (i, ⟨b, d.workspace, some m⟩)
  | _ => none

/-- The calls of a builder in a run, in their order. -/
def calls (source : Source σ) (i : Nat) : Desk σ → List (Action σ) → List (Call σ)
  | _, [] => []
  | d, a :: actions =>
    let later := calls source i (d.perform source a) actions
    match d.call? a with
    | some (j, c) => if j = i then c :: later else later
    | none => later

variable {source : Source σ} {d : Desk σ} {i : Nat}

theorem build_builders (source : Source σ) (d : Desk σ) (j : Nat) (b : SnapshotBuilder) :
    (d.build source j b).builders =
      d.builders.set j ((b.build source).run d.workspace).1.2 := by
  unfold Desk.build
  rcases (b.build source).run d.workspace with ⟨⟨result, b'⟩, w⟩
  cases result <;> rfl

theorem reload_builders (source : Source σ) (d : Desk σ) (k : Nat) (r : Issued)
    (b : SnapshotBuilder) : (d.reload source k r b).builders =
      d.builders.set r.builder ((b.build source).run d.workspace).1.2 := by
  unfold Desk.reload
  rw [reload_run_eq]
  rcases (b.build source).run d.workspace with ⟨⟨result, b'⟩, w⟩
  cases result <;> rfl

theorem reloadOther_builders (source : Source σ) (d : Desk σ) (j : Nat) (m : Market)
    (b : SnapshotBuilder) : (d.reloadOther source j m b).builders =
      d.builders.set j ((b.build source).run d.workspace).1.2 := by
  unfold Desk.reloadOther
  rw [reload_run_eq]
  rcases (b.build source).run d.workspace with ⟨⟨result, b'⟩, w⟩
  cases result <;> rfl

variable (source) in
/-- An action that makes a call changes the builder that is called, and no other. -/
theorem builders_of_call {a : Action σ} {c : Call σ} (hc : d.call? a = some (i, c)) :
    d.builders[i]? = some c.builder ∧
      (d.perform source a).builders = d.builders.set i (c.run source).1.2 := by
  have hrun (c : Call σ) : (c.run source).1.2 =
      ((c.builder.build source).run c.workspace).1.2 := by
    rw [Call.run_eq]
    rfl
  cases a with
  | world s => simp only [call?, reduceCtorEq] at hc
  | launch address => simp only [call?, reduceCtorEq] at hc
  | choose j o => simp only [call?, reduceCtorEq] at hc
  | copy k => simp only [call?, reduceCtorEq] at hc
  | build j =>
    obtain ⟨b, hb, hpair⟩ := Option.map_eq_some_iff.mp hc
    obtain ⟨rfl, rfl⟩ := Prod.mk.inj hpair
    refine ⟨hb, ?_⟩
    simp only [perform, hb, hrun]
    exact build_builders source d j b
  | reload j k =>
    simp only [call?] at hc
    split at hc
    · next b r hb hr =>
      obtain ⟨hj, hc⟩ := Option.ite_none_right_eq_some.mp hc
      obtain ⟨rfl, rfl⟩ := Prod.mk.inj (Option.some.inj hc)
      refine ⟨hb, ?_⟩
      simp only [perform, hb, hr, if_pos hj, hrun]
      rw [reload_builders, hj]
    · exact absurd hc.symm (Option.some_ne_none _)
  | reloadOther j m =>
    obtain ⟨b, hb, hpair⟩ := Option.map_eq_some_iff.mp hc
    obtain ⟨rfl, rfl⟩ := Prod.mk.inj hpair
    refine ⟨hb, ?_⟩
    simp only [perform, hb, hrun]
    exact reloadOther_builders source d j m b

theorem pinned_launch (d : Desk σ) (address : Address) (i : Nat) :
    ({ d with builders := d.builders ++ [SnapshotBuilder.new address] } : Desk σ).pinned i =
      d.pinned i := by
  unfold pinned
  by_cases hi : i < d.builders.length
  · rw [List.getElem?_append_left hi]
  · have hlen : d.builders.length ≤ i := Nat.le_of_not_lt hi
    rw [List.getElem?_append_right hlen, List.getElem?_eq_none hlen]
    cases i - d.builders.length <;> rfl

theorem pinned_choose (d : Desk σ) (j : Nat) (o : SnapshotOptions) (i : Nat) :
    ({ d with builders := d.builders.modify j fun b => b.withOptions o } : Desk σ).pinned i =
      d.pinned i := by
  unfold pinned
  rw [List.getElem?_modify]
  cases d.builders[i]? with
  | none => rfl
  | some b =>
    change (if j = i then b.withOptions o else b).pinned = b.pinned
    by_cases hj : j = i
    · rw [if_pos hj]
      rfl
    · rw [if_neg hj]

theorem pinned_of_no_call {a : Action σ} (hc : d.call? a = none) (i : Nat) :
    (d.perform source a).pinned i = d.pinned i := by
  cases a with
  | world s => rfl
  | launch address => exact d.pinned_launch address i
  | choose j o => exact d.pinned_choose j o i
  | copy k =>
    simp only [perform]
    split <;> rfl
  | build j =>
    have hb : d.builders[j]? = none := Option.map_eq_none_iff.mp hc
    simp only [perform, hb]
  | reload j k =>
    simp only [perform]
    split
    · next b r hb hr =>
      simp only [call?, hb, hr] at hc
      by_cases hj : r.builder = j
      · rw [if_pos hj] at hc
        exact absurd hc (Option.some_ne_none _)
      · rw [if_neg hj]
    · rfl
  | reloadOther j m =>
    have hb : d.builders[j]? = none := Option.map_eq_none_iff.mp hc
    simp only [perform, hb]

theorem grows_run (d : Desk σ) (actions : List (Action σ)) : d.Grows (d.run source actions) := by
  induction actions generalizing d with
  | nil => exact Grows.refl d
  | cons a actions ih =>
    have hstep : d.Grows (d.perform source a) := grows_effect (d.perform_effect a)
    have hrest := ih (d.perform source a)
    exact ⟨hstep.cache.trans hrest.cache, fun i data h => hrest.pinned i data (hstep.pinned i data h)⟩

/-- Once bytes are pinned, every call uses them. -/
theorem calls_settled {data : Bytes} {m₀ : Market} (hm : decodeMarket data = .ok m₀)
    (hd : d.pinned i = some data) (actions : List (Action σ)) :
    ∀ c ∈ d.calls source i actions, c.Settled source data := by
  induction actions generalizing d with
  | nil =>
    intro c hc
    exact nomatch hc
  | cons a actions ih =>
    -- Whatever is done, by whichever builder, the bytes stay pinned.
    have hgrows : d.Grows (d.perform source a) := grows_effect (d.perform_effect a)
    have hlater := ih (hgrows.pinned i data hd)
    simp only [calls]
    split
    · next j c hc =>
      by_cases hj : j = i
      · subst hj
        obtain ⟨hb, _⟩ := builders_of_call source hc
        rw [pinned_of_builder hb] at hd
        rw [if_pos rfl]
        exact List.forall_mem_cons.mpr ⟨Call.settled_of_pinned source hd hm, hlater⟩
      · rwa [if_neg hj]
    · exact hlater

/-- How the calls of a builder go, and what it has pinned in the end: each fails until one succeeds
and pins what it got, and from then on every call uses that. -/
def PinnedOnce (source : Source σ) (calls : List (Call σ)) (pinned : Option Bytes) : Prop :=
  ∃ failed later, calls = failed ++ later ∧ (∀ c ∈ failed, c.Failed source) ∧
    (later = [] ∧ pinned = none ∨
      ∃ first rest data, later = first :: rest ∧ first.Pinning source data ∧
        (∀ c ∈ rest, c.Settled source data) ∧ pinned = some data)

theorem calls_of_unpinned (hd : d.pinned i = none) (actions : List (Action σ)) :
    PinnedOnce source (d.calls source i actions) ((d.run source actions).pinned i) := by
  induction actions generalizing d with
  | nil => exact ⟨[], [], rfl, List.forall_mem_nil _, .inl ⟨rfl, hd⟩⟩
  | cons a actions ih =>
    change PinnedOnce source _ (((d.perform source a).run source actions).pinned i)
    simp only [calls]
    split
    · next j c hc =>
      obtain ⟨hb, hbuilders⟩ := builders_of_call source hc
      have hpinned := pinned_set hb hbuilders i
      by_cases hj : j = i
      · subst hj
        rw [if_pos rfl] at hpinned ⊢
        rw [pinned_of_builder hb] at hd
        -- A failed call pins nothing, and the rest of the run starts as this one did.
        rcases Call.failed_or_pinning source hd with hfailed | ⟨data, hpinning, m₀, hm⟩
        · obtain ⟨failed, later, hsplit, hall, hlater⟩ := ih (hpinned.trans hfailed.unpinned)
          refine ⟨c :: failed, later, ?_, List.forall_mem_cons.mpr ⟨hfailed, hall⟩, hlater⟩
          rw [hsplit]
          rfl
        · have hdata := hpinned.trans hpinning.pinned
          refine ⟨[], _, rfl, List.forall_mem_nil _, .inr ⟨c, _, data, rfl, hpinning, ?_, ?_⟩⟩
          · exact calls_settled hm hdata actions
          · exact ((d.perform source a).grows_run actions).pinned j data hdata
      · rw [if_neg hj] at hpinned ⊢
        exact ih (hpinned.trans hd)
    · next hc => exact ih ((pinned_of_no_call hc i).trans hd)

def address (d : Desk σ) (i : Nat) : Option Address :=
  (d.builders[i]?).map SnapshotBuilder.address

theorem address_effect {d' : Desk σ} {a : Address} (h : Effect source d d')
    (ha : d.address i = some a) : d'.address i = some a := by
  obtain ⟨b, hb, rfl⟩ := Option.map_eq_some_iff.mp ha
  -- A call leaves the address of its builder as it is, whether it pins anything or not.
  have hcall {j : Nat} {c c' : SnapshotBuilder} {w : Workspace σ}
      {result : Except SnapshotError Market} (hc : d.builders[j]? = some c)
      (hrun : (c.build source).run d.workspace = ((result, c'), w)) :
      ((d.builders.set j c')[i]?).map SnapshotBuilder.address = some b.address := by
    by_cases hj : j = i
    · subst hj
      obtain rfl := Option.some.inj (hb.symm.trans hc)
      have hlen : j < d.builders.length := (List.getElem?_eq_some_iff.mp hb).1
      rw [List.getElem?_set_self hlen]
      cases result with
      | error e => rw [build_error hrun, Option.map_some]
      | ok m =>
        obtain ⟨data, hc', _⟩ := build_ok hrun
        rw [hc', Option.map_some]
    · rw [List.getElem?_set_ne hj, hb, Option.map_some]
  cases h with
  | idle => exact ha
  | world s => exact ha
  | copied r hr => exact ha
  | launch address =>
    have hlen : i < d.builders.length := (List.getElem?_eq_some_iff.mp hb).1
    unfold Desk.address
    rw [List.getElem?_append_left hlen, hb, Option.map_some]
  | choose j o =>
    unfold Desk.address
    rw [List.getElem?_modify, hb]
    change some (if j = i then b.withOptions o else b).address = some b.address
    by_cases hj : j = i
    · rw [if_pos hj]
      rfl
    · rw [if_neg hj]
  | called hc result hrun => exact hcall hc hrun
  | built hc hrun => exact hcall hc hrun
  | reloaded k r hr hc hrun => exact hcall hc hrun

theorem address_run {a : Address} (ha : d.address i = some a) (actions : List (Action σ)) :
    (d.run source actions).address i = some a := by
  induction actions generalizing d with
  | nil => exact ha
  | cons action actions ih => exact ih (address_effect (d.perform_effect action) ha)

theorem calls_address (d : Desk σ) (actions : List (Action σ)) :
    ∀ c ∈ d.calls source i actions,
      (d.run source actions).address i = some c.builder.address := by
  induction actions generalizing d with
  | nil =>
    intro c hc
    exact nomatch hc
  | cons a actions ih =>
    have hlater := ih (d.perform source a)
    simp only [calls]
    split
    · next j c hc =>
      by_cases hj : j = i
      · subst hj
        obtain ⟨hb, _⟩ := builders_of_call source hc
        have haddress : d.address j = some c.builder.address := by
          unfold Desk.address
          rw [hb, Option.map_some]
        rw [if_pos rfl]
        exact List.forall_mem_cons.mpr ⟨address_run haddress (a :: actions), hlater⟩
      · rwa [if_neg hj]
    · exact hlater

end Desk

/-- In every run, the calls of a builder each ask for its market account once and fail, until one
succeeds and pins the bytes that came back. From then on none asks for it, all use these bytes, and
every market of the builder has the fields that they decode to. -/
theorem market_pinned_by_first_success (source : Source σ) (s : σ) (cache : DecimalsCache)
    (actions : List (Action σ)) (i : Nat) :
    let start : Desk σ := Desk.opening s cache
    let finish := start.run source actions
    Desk.PinnedOnce source (start.calls source i actions) (finish.pinned i) ∧
      (∀ c ∈ start.calls source i actions, finish.address i = some c.builder.address) ∧
      ∀ data, finish.pinned i = some data →
        ∀ r ∈ finish.issued, r.builder = i → r.market.DecodedFrom data := by
  intro start finish
  refine ⟨Desk.calls_of_unpinned rfl actions, start.calls_address actions, ?_⟩
  intro data hdata r hr hi
  have hreachable : finish.Reachable source := ⟨s, cache, actions, rfl⟩
  obtain ⟨data', hdata', hm⟩ := (hreachable.held r hr).account
  rw [hi, hdata] at hdata'
  rwa [Option.some.inj hdata']

/-- The queue is missing at first; then books are wanted, and a second build comes after a change. -/
def retryActions : List (Action UInt8) :=
  [.launch sampleRecord.ownAddress, .choose 0 ⟨false, true, false⟩, .build 0,
    .choose 0 ⟨true, false, false⟩, .build 0, .world 9, .build 0]

theorem market_pinned_by_first_success_of_retry :
    ((Desk.opening 6 .empty).calls sampleSource 0 retryActions).map
        (fun c => (c.marketFetches sampleSource).length) = [1, 1, 0] ∧
      ((Desk.opening 6 .empty).run sampleSource retryActions).issued.length = 2 ∧
      ∀ r ∈ ((Desk.opening 6 .empty).run sampleSource retryActions).issued, r.builder = 0 →
        r.market.DecodedFrom sampleAccount := by
  refine ⟨by decide +kernel, by decide +kernel, ?_⟩
  apply (market_pinned_by_first_success sampleSource 6 .empty retryActions 0).2.2 sampleAccount
  decide +kernel

end SerumDex
