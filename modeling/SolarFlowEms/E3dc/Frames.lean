import Mathlib.Data.List.Basic
import Mathlib.Order.Basic
import SolarFlowEms.E3dc.ModbusClient

/-!
# Every answer is the frame behind its request

As long as nothing but refusals happened on a connection, the frames that were received there lie
one behind the other from its first byte on, each the whole answer to the request it was received
for.  So no frame is taken for the answer to a request other than its own.

* `Exchange.Answers`, `Exchange.Whole` - what makes a frame the answer to its request
* `ends_readRegisters` - registers that are read are words of the one frame behind their request
* `ends_detectFrom` - a mapping is found by its magic word
-/

namespace SolarFlowEms.E3dc

open Program

/-! ### Frames on a connection -/

namespace Exchange

def frame (e : Exchange) : List UInt8 := e.header ++ e.body

def stop (e : Exchange) : ℕ := e.start + e.frame.length

/-- The frame gives registers: it bears the transaction id and the function code of its request, and
the registers are the words of its body behind the byte count. -/
structure Answers (e : Exchange) (registers : List ℕ) : Prop where
  transaction : (words e.header).getD 0 0 = e.request.transactionId
  functionCode : (e.body.getD 1 0).toNat = e.request.functionCode
  length : 3 + e.request.count * 2 ≤ e.body.length
  registers : registers = words ((e.body.drop 3).take (e.request.count * 2))

/-- The frame refuses its request, whose transaction id it bears. -/
structure Refuses (e : Exchange) : Prop where
  transaction : (words e.header).getD 0 0 = e.request.transactionId
  functionCode : (e.body.getD 1 0).toNat = e.request.functionCode ||| 128

/-- The frame stands on the connection as it was received, and is an answer to its request: the
registers that were asked for, or a refusal. -/
structure Whole (net : Network) (e : Exchange) : Prop where
  bytes : ∀ (i : ℕ) b, e.frame[i]? = some b → net.event e.connection (e.start + i) = .byte b
  header : e.header.length = 6
  protocol : (words e.header).getD 1 0 = 0
  body : e.body.length = (words e.header).getD 2 0
  settled : (∃ registers, e.Answers registers) ∨ e.Refuses

variable {e : Exchange}

theorem answers_of_ok {registers : List ℕ} (h : answerOf e.request e.header e.body = .ok registers) :
    e.Answers registers := by
  unfold answerOf at h
  dsimp only at h
  split_ifs at h with htransaction hrefused hshort hfunction hshort' hcount
  simp only [not_or, not_not] at htransaction hfunction hcount
  cases h
  exact ⟨htransaction, hfunction, hcount.1 ▸ Nat.le_of_not_lt hcount.2, by rw [hcount.1]⟩

theorem refuses_of_exceptionResponse {functionCode code : ℕ}
    (h : answerOf e.request e.header e.body = .error (.exceptionResponse functionCode code)) :
    e.Refuses := by
  unfold answerOf at h
  dsimp only at h
  split_ifs at h with htransaction hrefused
  all_goals cases h
  exact ⟨not_not.mp htransaction, hrefused⟩

end Exchange

/-- Whole frames, the latest first, up to a position: each begins where the one before it ends. -/
def Tiles (net : Network) : List Exchange → ℕ → Prop
  | [], position => position = 0
  | e :: older, position => e.Whole net ∧ e.stop = position ∧ Tiles net older e.start

def onConnection (connection : ℕ) (exchanges : List Exchange) : List Exchange :=
  exchanges.filter (·.connection = connection)

variable {e : Exchange} {exchanges : List Exchange} {unitId : ℕ} {mapping : Mapping}

theorem onConnection_cons_same {connection : ℕ} (h : e.connection = connection) :
    onConnection connection (e :: exchanges) = e :: onConnection connection exchanges :=
  List.filter_cons_of_pos (decide_eq_true h)

theorem onConnection_fresh {connection : ℕ} {exchanges : List Exchange}
    (h : ∀ e ∈ exchanges, e.connection < connection) : onConnection connection exchanges = [] :=
  List.filter_eq_nil_iff.mpr fun e he => by
    simp [Nat.ne_of_lt (h e he)]

/-! ### What the client keeps -/

/-- Connections are numbered in their order, and the open one is the last. -/
structure Numbered (c : Client) : Prop where
  socket : ∀ connection, c.socket = some connection → connection = c.connects
  exchanges : ∀ e ∈ c.exchanges, e.connection ≤ c.connects

/-- A connection is open, and all that was received on it are whole answers. -/
structure Clean (net : Network) (c : Client) : Prop where
  socket : c.socket = some c.connects
  exchanges : ∀ e ∈ c.exchanges, e.connection ≤ c.connects
  tiles : Tiles net (onConnection c.connects c.exchanges) c.position

theorem Clean.numbered {net : Network} {c : Client} (h : Clean net c) : Numbered c where
  socket connection hsocket := by
    rw [h.socket] at hsocket
    exact (Option.some_inj.mp hsocket).symm
  exchanges := h.exchanges

/-- Time went by: connections, exchanges and requests of a kind were added. -/
structure Grows (P : Request → Prop) (c c' : Client) : Prop where
  connects : c.connects ≤ c'.connects
  exchanges : c.exchanges <:+ c'.exchanges
  sent : ∃ later, c'.sent = later ++ c.sent ∧ ∀ request ∈ later, P request

variable {P P' : Request → Prop} {c c' c'' : Client}

theorem Grows.refl (P : Request → Prop) (c : Client) : Grows P c c where
  connects := Nat.le_refl _
  exchanges := List.suffix_refl _
  sent := ⟨[], rfl, fun request h => by cases h⟩

theorem Grows.trans (h : Grows P c c') (h' : Grows P c' c'') : Grows P c c'' where
  connects := Nat.le_trans h.connects h'.connects
  exchanges := h.exchanges.trans h'.exchanges
  sent := by
    obtain ⟨later, hsent, hlater⟩ := h.sent
    obtain ⟨later', hsent', hlater'⟩ := h'.sent
    refine ⟨later' ++ later, by rw [hsent', hsent, List.append_assoc], fun request hmem => ?_⟩
    rcases List.mem_append.mp hmem with hmem | hmem
    · exact hlater' request hmem
    · exact hlater request hmem

theorem Grows.mono (h : Grows P c c') (hP : ∀ request, P request → P' request) : Grows P' c c' where
  connects := h.connects
  exchanges := h.exchanges
  sent := by
    obtain ⟨later, hsent, hlater⟩ := h.sent
    exact ⟨later, hsent, fun request hmem => hP request (hlater request hmem)⟩

/-! ### Bytes -/

variable {net : Network}

def Breaks (failure : Failure) : Prop :=
  ∀ functionCode code, failure ≠ .exceptionResponse functionCode code

theorem breaks_modbus (message : String) : Breaks (.modbus message) := fun _ _ h => by cases h

theorem breaks_other (message : String) : Breaks (.other message) := fun _ _ h => by cases h

theorem ends_receiveByte {connection : ℕ} (hsocket : c.socket = some connection) :
    Ends (receiveByte net) c
      (fun b c' => net.event connection c.position = .byte b ∧
        c' = { c with position := c.position + 1 })
      (fun failure c' => Breaks failure ∧ c' = { c with position := c.position + 1 }) := by
  obtain ⟨connects, socket, position, transactionId, sent, exchanges⟩ := c
  obtain rfl : socket = some connection := hsocket
  rw [Ends, receiveByte]
  cases hevent : net.event connection position with
  | byte b =>
    simp only [hevent]
    exact ⟨trivial, trivial⟩
  | timeout =>
    simp only [hevent]
    exact ⟨breaks_modbus _, trivial⟩
  | error message =>
    simp only [hevent]
    exact ⟨breaks_modbus _, trivial⟩
  | closed =>
    simp only [hevent]
    exact ⟨breaks_modbus _, trivial⟩

/-- The client is as it was but for its position. -/
def Moved (c c' : Client) : Prop := ∃ position, c' = { c with position := position }

theorem ends_receiveExactly {connection : ℕ} (count : ℕ) (hsocket : c.socket = some connection) :
    Ends (receiveExactly net count) c
      (fun bytes c' => bytes.length = count ∧ c' = { c with position := c.position + count } ∧
        ∀ (i : ℕ) b, bytes[i]? = some b → net.event connection (c.position + i) = .byte b)
      (fun failure c' => Breaks failure ∧ Moved c c') := by
  induction count generalizing c with
  | zero =>
    rw [receiveExactly, ends_pure]
    exact ⟨rfl, rfl, fun i b hb => by cases hb⟩
  | succ count ih =>
    rw [receiveExactly, ends_bind]
    refine (ends_receiveByte hsocket).mono ?_ ?_
    · rintro b c' ⟨hb, rfl⟩
      rw [ends_bind]
      refine (@ih { c with position := c.position + 1 } hsocket).mono ?_ ?_
      · rintro rest c' ⟨hlength, rfl, hrest⟩
        rw [ends_pure]
        refine ⟨by rw [List.length_cons, hlength], ?_, ?_⟩
        · simp only [Client.mk.injEq, true_and, and_true]
          omega
        · intro i b' hb'
          cases i with
          | zero =>
            obtain rfl := Option.some_inj.mp hb'
            exact hb
          | succ i =>
            have hnext := hrest i b' hb'
            simp only at hnext
            rw [← hnext]
            congr 1
            omega
      · rintro failure c' ⟨hbreaks, position, rfl⟩
        exact ⟨hbreaks, position, rfl⟩
    · rintro failure c' ⟨hbreaks, rfl⟩
      exact ⟨hbreaks, _, rfl⟩

/-! ### Requests -/

/-- Registers were read over a connection: the request went out, and the frame behind it is its
answer. -/
structure Answered (net : Network) (c c' : Client) (e : Exchange) : Prop where
  connection : e.connection = c.connects
  connects : c'.connects = c.connects
  exchanges : c'.exchanges = e :: c.exchanges
  sent : c'.sent = e.request :: c.sent
  clean : Clean net c'

theorem Answered.grows (h : Answered net c c' e) (hP : P e.request) :
    Grows P c c' where
  connects := Nat.le_of_eq h.connects.symm
  exchanges := by
    rw [h.exchanges]
    exact List.suffix_cons _ _
  sent := by
    refine ⟨[e.request], by rw [h.sent]; rfl, fun request hmem => ?_⟩
    rw [List.mem_singleton.mp hmem]
    exact hP

/-- A request that is not answered with its registers: where it was not refused, the connection is
left somewhere in the middle. -/
structure Unanswered (net : Network) (P : Request → Prop) (c c' : Client) (failure : Failure) :
    Prop where
  grows : Grows P c c'
  numbered : Numbered c'
  connects : c'.connects = c.connects
  clean : Breaks failure ∨ Clean net c'

theorem clean_of_whole {before : Client} (hclean : Clean net before)
    (hconnects : c.connects = before.connects) (hsocket : c.socket = before.socket)
    (hexchanges : c.exchanges = e :: before.exchanges) (hconnection : e.connection = before.connects)
    (hstart : e.start = before.position) (hstop : c.position = e.stop) (hwhole : e.Whole net) :
    Clean net c where
  socket := by rw [hsocket, hconnects, hclean.socket]
  exchanges := by
    rw [hexchanges, hconnects]
    intro e' he'
    rcases List.mem_cons.mp he' with rfl | he'
    · exact Nat.le_of_eq hconnection
    · exact hclean.exchanges e' he'
  tiles := by
    rw [hexchanges, hconnects, onConnection_cons_same hconnection]
    refine ⟨hwhole, hstop.symm, ?_⟩
    rw [hstart]
    exact hclean.tiles

theorem bytes_of_parts {connection start : ℕ} {header body : List UInt8}
    (hheader : ∀ (i : ℕ) b, header[i]? = some b → net.event connection (start + i) = .byte b)
    (hbody : ∀ (i : ℕ) b, body[i]? = some b →
      net.event connection (start + header.length + i) = .byte b) :
    ∀ (i : ℕ) b, (header ++ body)[i]? = some b → net.event connection (start + i) = .byte b := by
  intro i b hb
  by_cases hi : i < header.length
  · rw [List.getElem?_append_left hi] at hb
    exact hheader i b hb
  · rw [List.getElem?_append_right (by omega)] at hb
    have hbyte := hbody (i - header.length) b hb
    rw [← hbyte]
    congr 1
    omega

theorem ends_readAnswer {request : Request} {before : Client} (hclean : Clean net before)
    (hc : c = { before with
      transactionId := request.transactionId, sent := request :: before.sent }) :
    Ends (readAnswer net request before.position) c
      (fun registers c' => ∃ e, Answered net before c' e ∧ e.request = request ∧
        e.Answers registers)
      (fun failure c' => Unanswered net (· = request) before c' failure) := by
  have hsocket : c.socket = some before.connects := by rw [hc]; exact hclean.socket
  have hnumbered := hclean.numbered
  -- the client where the connection is left in the middle
  have hbroken {failure : Failure} (hbreaks : Breaks failure) (position : ℕ) :
      Unanswered net (· = request) before { c with position := position } failure := by
    subst hc
    refine ⟨⟨Nat.le_refl _, List.suffix_refl _, [request], rfl, ?_⟩,
      ⟨hnumbered.socket, hnumbered.exchanges⟩, rfl, .inl hbreaks⟩
    intro request' hmem
    exact List.mem_singleton.mp hmem
  rw [readAnswer, ends_bind]
  refine (ends_receiveExactly 6 hsocket).mono ?_ ?_
  swap
  · rintro failure c' ⟨hbreaks, position, rfl⟩
    exact hbroken hbreaks position
  rintro header c' ⟨hheader, rfl, hheaderBytes⟩
  simp only
  by_cases hprotocol : (words header).getD 1 0 ≠ 0
  · rw [if_pos hprotocol, ends_raise]
    exact hbroken (breaks_modbus _) _
  rw [if_neg hprotocol]
  by_cases hlength : ¬ (2 ≤ (words header).getD 2 0 ∧ (words header).getD 2 0 ≤ 253)
  · rw [if_pos hlength, ends_raise]
    exact hbroken (breaks_modbus _) _
  rw [if_neg hlength, ends_bind]
  refine (@ends_receiveExactly { c with position := c.position + 6 } net _ _ hsocket).mono ?_ ?_
  swap
  · rintro failure c' ⟨hbreaks, position, rfl⟩
    exact hbroken hbreaks position
  rintro body c' ⟨hbody, rfl, hbodyBytes⟩
  -- what was received is a whole frame, whatever it says
  let e : Exchange := ⟨before.connects, before.position, request, header, body⟩
  let after : Client := { before with
    transactionId := request.transactionId, sent := request :: before.sent
    position := before.position + 6 + (words header).getD 2 0
    exchanges := e :: before.exchanges }
  have hrun : received before.position request header body
      { c with position := c.position + 6 + (words header).getD 2 0 } =
        (answerOf e.request e.header e.body, after) := by
    subst hc
    rfl
  have hbytes : ∀ (i : ℕ) b, e.frame[i]? = some b →
      net.event e.connection (e.start + i) = .byte b := by
    subst hc
    refine bytes_of_parts hheaderBytes ?_
    rw [hheader]
    exact hbodyBytes
  have hwhole (hsettled : (∃ registers, e.Answers registers) ∨ e.Refuses) : e.Whole net :=
    ⟨hbytes, hheader, not_not.mp hprotocol, hbody, hsettled⟩
  have hstop : after.position = e.stop := by
    simp only [Exchange.stop, Exchange.frame, List.length_append, e, after, hheader, hbody]
    omega
  have hafter (hwhole : e.Whole net) : Clean net after :=
    clean_of_whole hclean rfl rfl rfl rfl rfl hstop hwhole
  have hgrows : Grows (· = request) before after := by
    refine ⟨Nat.le_refl _, List.suffix_cons _ _, [request], rfl, ?_⟩
    intro request' hmem
    exact List.mem_singleton.mp hmem
  have hlast : Numbered after := by
    refine ⟨hnumbered.socket, fun e' he' => ?_⟩
    rcases List.mem_cons.mp he' with rfl | he'
    · exact Nat.le_refl _
    · exact hclean.exchanges e' he'
  rw [Ends, hrun]
  cases houtcome : answerOf e.request e.header e.body with
  | ok registers =>
    have hanswers := Exchange.answers_of_ok houtcome
    exact ⟨e, ⟨rfl, rfl, rfl, rfl, hafter (hwhole (.inl ⟨registers, hanswers⟩))⟩, rfl, hanswers⟩
  | error failure =>
    refine ⟨hgrows, hlast, rfl, ?_⟩
    cases failure with
    | modbus message => exact .inl (breaks_modbus message)
    | other message => exact .inl (breaks_other message)
    | exceptionResponse functionCode code =>
      exact .inr (hafter (hwhole (.inr (Exchange.refuses_of_exceptionResponse houtcome))))

def Request.For (address : ℤ) (count functionCode unitId : ℕ) (request : Request) : Prop :=
  request.address = address.toNat ∧ request.count = count ∧
    request.functionCode = functionCode ∧ request.unitId = unitId

/-- **Registers that are read** are those of the frame behind their request, and where the device
refuses them the connection is as usable as before. -/
theorem ends_readRegisters {address : ℤ} {count functionCode : ℕ} (hclean : Clean net c) :
    Ends (readRegisters net address count functionCode unitId) c
      (fun registers c' => ∃ e, Answered net c c' e ∧
        e.request.For address count functionCode unitId ∧ e.Answers registers)
      (fun failure c' =>
        Unanswered net (Request.For address count functionCode unitId) c c' failure) := by
  have hnumbered := hclean.numbered
  have hunsent {failure : Failure} (hbreaks : Breaks failure) (transactionId : ℕ) :
      Unanswered net (Request.For address count functionCode unitId) c
        { c with transactionId := transactionId } failure :=
    ⟨⟨Nat.le_refl _, List.suffix_refl _, [], rfl, fun _ h => by cases h⟩,
      ⟨hnumbered.socket, hnumbered.exchanges⟩, rfl, .inl hbreaks⟩
  rw [readRegisters]
  split
  · rw [ends_raise]
    exact hunsent (breaks_modbus _) c.transactionId
  split
  · rw [ends_raise]
    exact hunsent (breaks_modbus _) c.transactionId
  split
  · rw [ends_raise]
    exact hunsent (breaks_modbus _) c.transactionId
  have hat : connectedAt c = (.ok c.position, c) := by rw [connectedAt, hclean.socket]
  rw [ends_bind, ends_of_eq_ok hat, ends_bind]
  let request : Request :=
    ⟨(c.transactionId + 1) % 65536, unitId, functionCode, address.toNat, count⟩
  have hfor : request.For address count functionCode unitId := ⟨rfl, rfl, rfl, rfl⟩
  by_cases hunit : 255 < unitId
  · have hrun : sendRequest net address.toNat count functionCode unitId c =
        (.error (.other "ubyte format requires 0 <= number <= 255"),
          { c with transactionId := request.transactionId }) := by
      rw [sendRequest]
      exact if_pos hunit
    rw [ends_of_eq_error hrun]
    exact hunsent (breaks_other _) _
  cases herror : net.sendError c.sent.length with
  | some message =>
    have hrun : sendRequest net address.toNat count functionCode unitId c =
        (.error (.modbus s!"socket error while sending: {message}"),
          { c with transactionId := request.transactionId, sent := request :: c.sent }) := by
      rw [sendRequest]
      simp only [if_neg hunit, herror]
      rfl
    rw [ends_of_eq_error hrun]
    refine ⟨⟨Nat.le_refl _, List.suffix_refl _, [request], rfl, ?_⟩,
      ⟨hnumbered.socket, hnumbered.exchanges⟩, rfl, .inl (breaks_modbus _)⟩
    intro request' hmem
    rw [List.mem_singleton.mp hmem]
    exact hfor
  | none =>
    have hrun : sendRequest net address.toNat count functionCode unitId c =
        (.ok request,
          { c with transactionId := request.transactionId, sent := request :: c.sent }) := by
      rw [sendRequest]
      simp only [if_neg hunit, herror]
      rfl
    rw [ends_of_eq_ok hrun]
    refine (@ends_readAnswer _ net request c hclean rfl).mono ?_ ?_
    · rintro registers c' ⟨e, hanswered, hrequest, hanswers⟩
      exact ⟨e, hanswered, hrequest ▸ hfor, hanswers⟩
    · intro failure c' h
      refine ⟨h.grows.mono fun request' hsame => ?_, h.numbered, h.connects, h.clean⟩
      rw [hsame]
      exact hfor

/-! ### The magic word -/

/-- The magic word was read over the connection, where the mapping says. -/
def MagicFound (mapping : Mapping) (connection : ℕ) (exchanges : List Exchange) : Prop :=
  ∃ e ∈ exchanges, e.connection = connection ∧
    e.request.For (mapping.wireAddress magicAddress) 1 mapping.functionCode mapping.unitId ∧
    ∃ registers, e.Answers registers ∧ registers.head? = some magicValue

theorem MagicFound.of_suffix {connection : ℕ}
    {exchanges' : List Exchange} (h : MagicFound mapping connection exchanges)
    (hsuffix : exchanges <:+ exchanges') : MagicFound mapping connection exchanges' := by
  obtain ⟨e, he, hfound⟩ := h
  exact ⟨e, hsuffix.subset he, hfound⟩

/-- Requests of a kind were made over a connection that is still clean. -/
structure Stays (net : Network) (P : Request → Prop) (c c' : Client) : Prop where
  grows : Grows P c c'
  connects : c'.connects = c.connects
  clean : Clean net c'

/-- Requests of a kind were made, and the connection is not to be used again. -/
structure Ended (P : Request → Prop) (c c' : Client) : Prop where
  grows : Grows P c c'
  numbered : Numbered c'

theorem Stays.then_stays (h : Stays net P c c') (h' : Stays net P c' c'') : Stays net P c c'' :=
  ⟨h.grows.trans h'.grows, h'.connects.trans h.connects, h'.clean⟩

theorem Stays.then_ended (h : Stays net P c c') (h' : Ended P c' c'') : Ended P c c'' :=
  ⟨h.grows.trans h'.grows, h'.numbered⟩

theorem Answered.stays {e : Exchange} (h : Answered net c c' e) (hP : P e.request) :
    Stays net P c c' :=
  ⟨h.grows hP, h.connects, h.clean⟩

theorem Unanswered.ended {failure : Failure} (h : Unanswered net P c c' failure)
    (hP : ∀ request, P request → P' request) : Ended P' c c' :=
  ⟨h.grows.mono hP, h.numbered⟩

theorem Unanswered.stays {functionCode code : ℕ}
    (h : Unanswered net P c c' (.exceptionResponse functionCode code))
    (hP : ∀ request, P request → P' request) : Stays net P' c c' :=
  ⟨h.grows.mono hP, h.connects, h.clean.resolve_left fun hbreaks => hbreaks _ _ rfl⟩

theorem head?_of_magic {registers : List ℕ} (h : registers.getD 0 0 = magicValue) :
    registers.head? = some magicValue := by
  cases registers with
  | nil => cases h
  | cons value rest => exact congrArg some h

/-- **A mapping that is found** is one whose magic word stands on the connection. -/
theorem ends_detectFrom {answers : List String} {offsets : List ℤ} (hclean : Clean net c) :
    Ends (detectFrom net unitId answers offsets) c
      (fun mapping c' => Stays net (·.count = 1) c c' ∧
        MagicFound mapping c'.connects c'.exchanges)
      (fun _ c' => Ended (·.count = 1) c c') := by
  induction offsets generalizing c answers with
  | nil =>
    rw [detectFrom, ends_raise]
    exact ⟨Grows.refl _ _, hclean.numbered⟩
  | cons offset rest ih =>
    have hone (request : Request)
        (h : request.For (magicAddress + offset) 1 readHoldingRegisters unitId) :
        request.count = 1 := h.2.1
    rw [detectFrom, ends_bind, ends_attempting]
    refine (ends_readRegisters hclean).mono ?_ ?_
    · rintro registers c' ⟨e, hanswered, hfor, hanswers⟩
      have hstays : Stays net (·.count = 1) c c' := hanswered.stays (hone _ hfor)
      simp only
      by_cases hmagic : registers.getD 0 0 = magicValue
      · rw [if_pos hmagic, ends_pure]
        refine ⟨hstays, e, ?_, ?_, hfor, registers, hanswers, head?_of_magic hmagic⟩
        · rw [hanswered.exchanges]
          exact List.mem_cons_self
        · rw [hanswered.connects, hanswered.connection]
      · rw [if_neg hmagic]
        refine (ih hstays.clean).mono ?_ ?_
        · rintro mapping c'' ⟨hlater, hfound⟩
          exact ⟨hstays.then_stays hlater, hfound⟩
        · intro failure c'' hended
          exact hstays.then_ended hended
    · intro failure c' hunanswered
      cases failure with
      | exceptionResponse functionCode code =>
        have hstays : Stays net (·.count = 1) c c' := hunanswered.stays hone
        refine (ih hstays.clean).mono ?_ ?_
        · rintro mapping c'' ⟨hlater, hfound⟩
          exact ⟨hstays.then_stays hlater, hfound⟩
        · intro failure c'' hended
          exact hstays.then_ended hended
      | modbus message =>
        simp only [ends_raise]
        exact hunanswered.ended hone
      | other message =>
        simp only [ends_raise]
        exact hunanswered.ended hone

theorem ends_connect (hnumbered : Numbered c) :
    Ends (connect net) c
      (fun _ c' => Grows (fun _ => False) c c' ∧ Clean net c')
      (fun _ c' => Ended (fun _ => False) c c') := by
  have hgrows (socket : Option ℕ) (position : ℕ) : Grows (fun _ => False) c
      { c with connects := c.connects + 1, socket := socket, position := position } :=
    ⟨Nat.le_succ _, List.suffix_refl _, [], rfl, fun _ h => by cases h⟩
  have holder (e : Exchange) (he : e ∈ c.exchanges) : e.connection ≤ c.connects + 1 :=
    Nat.le_succ_of_le (hnumbered.exchanges e he)
  rw [Ends, connect]
  cases hresult : net.connect (c.connects + 1) with
  | refused message =>
    simp only
    exact ⟨hgrows none c.position, fun _ h => (by cases h), holder⟩
  | unusable message =>
    simp only
    exact ⟨hgrows _ 0, fun _ h => (Option.some_inj.mp h).symm, holder⟩
  | connected =>
    simp only
    refine ⟨hgrows _ 0, rfl, holder, ?_⟩
    have hnone := @onConnection_fresh (c.connects + 1) c.exchanges fun e he =>
      Nat.lt_succ_of_le (hnumbered.exchanges e he)
    simp only [hnone]
    rfl

theorem ends_readIdentification (hclean : Clean net c) :
    Ends (readIdentification net mapping) c
      (fun _ c' => Stays net (·.count = identificationCount) c c')
      (fun _ c' => Ended (·.count = identificationCount) c c') := by
  rw [readIdentification, ends_bind, ends_attempting]
  refine (ends_readRegisters hclean).mono ?_ ?_
  · rintro registers c' ⟨e, hanswered, hfor, -⟩
    simp only [ends_pure]
    exact hanswered.stays hfor.2.1
  · intro failure c' hunanswered
    cases failure with
    | exceptionResponse functionCode code =>
      simp only [ends_pure]
      exact hunanswered.stays fun request h => h.2.1
    | modbus message =>
      simp only [ends_raise]
      exact hunanswered.ended fun request h => h.2.1
    | other message =>
      simp only [ends_raise]
      exact hunanswered.ended fun request h => h.2.1

end SolarFlowEms.E3dc
