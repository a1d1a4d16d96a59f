import Handover.Links

/-!
Admission of a station from a state of rest: a probe request, an authentication
and an association request, each followed by the delivery of all that it leads to.
From rest there is one way in which the messages can be delivered, so that the end
of the exchange is determined by the two records of the station, and the states
from which a station is admitted are known exactly. A station that the controller
has selected elsewhere, or that either side has in the middle of an attempt that
was given up, is locked out.
-/
namespace Handover
namespace Net
open Controller
variable {AP : Type}

/-! ### States of rest -/

/-- No message is on its way and no thread is to send one. -/
structure Quiescent (net : Net AP) : Prop where
  sending : ∀ a, (net.ap a).sending = []
  inbox : ∀ a, net.inbox a = []
  up : ∀ sw, sw ∉ net.closed → net.up sw = []

/-- The events by which messages get on; no write fails. -/
def Message : Event AP → Prop
  | .thread _ _ => True
  | .deliver _ => True
  | .handle _ failing => failing = []
  | _ => False

/-- All is at rest but what waits at one access point. -/
structure Waiting (net : Net AP) (a : AP) (sw : IOFSwitch) (threads : List Sender) (msgs : List ToController)
    (orders : List FromController) : Prop where
  sock : net.sock a = some sw
  isOpen : sw ∉ net.closed
  apart : ∀ b, b ≠ a → net.sock b ≠ some sw
  threads : (net.ap a).sending = threads
  noThreads : ∀ b, b ≠ a → (net.ap b).sending = []
  msgs : net.up sw = msgs
  noMsgs : ∀ sw', sw' ≠ sw → sw' ∉ net.closed → net.up sw' = []
  orders : net.down sw = orders
  noOrders : ∀ b sw', sw' ≠ sw → net.sock b = some sw' → net.down sw' = []

section
variable {cfg : Config AP} {net net' : Net AP} {a : AP} {sw : IOFSwitch} {threads : List Sender}
  {msgs : List ToController} {orders : List FromController}

theorem Quiescent.waiting (quiescent : Quiescent net) (linked : Linked cfg net) (connected : net.sock a = some sw)
    (isOpen : sw ∉ net.closed) : Waiting net a sw [] [] [] where
  sock := connected
  isOpen := isOpen
  apart := fun b different => linked.apart different connected
  threads := quiescent.sending a
  noThreads := fun b _ => quiescent.sending b
  msgs := quiescent.up sw isOpen
  noMsgs := fun sw' _ => quiescent.up sw'
  orders := by simpa [Net.inbox,connected] using quiescent.inbox a
  noOrders := fun b sw' _ connected' => by simpa [Net.inbox,connected'] using quiescent.inbox b

theorem Waiting.quiescent (waiting : Waiting net a sw [] [] []) : Quiescent net where
  sending := fun b => by
    by_cases same : b = a
    · subst same
      exact waiting.threads
    · exact waiting.noThreads b same
  inbox := fun b => by
    unfold inbox
    cases connected : net.sock b with
    | none => rfl
    | some sw' =>
      by_cases same : sw' = sw
      · subst same
        exact waiting.orders
      · exact waiting.noOrders b sw' same connected
  up := fun sw' isOpen => by
    by_cases same : sw' = sw
    · subst same
      exact waiting.msgs
    · exact waiting.noMsgs sw' same isOpen

theorem Waiting.busy (waiting : Waiting net a sw threads msgs orders)
    (some_ : threads ≠ [] ∨ msgs ≠ [] ∨ orders ≠ []) : ¬ Quiescent net := by
  intro quiescent
  rcases some_ with isThread | isMsg | isOrder
  · exact isThread (waiting.threads.symm.trans (quiescent.sending a))
  · exact isMsg (waiting.msgs.symm.trans (quiescent.up sw waiting.isOpen))
  · refine isOrder (waiting.orders.symm.trans ?_)
    simpa [inbox,waiting.sock] using quiescent.inbox a

/-- A step of the access point changes what waits there only. -/
theorem Waiting.local (waiting : Waiting net a sw threads msgs orders) {sent : List ToController}
    (here : Local net net' a sent) {orders' : List FromController}
    (down : net'.down = Function.update net.down sw orders') :
    Waiting net' a sw (net'.ap a).sending (msgs ++ sent) orders' where
  sock := here.sock ▸ waiting.sock
  isOpen := here.closed ▸ waiting.isOpen
  apart := here.sock ▸ waiting.apart
  threads := rfl
  noThreads := fun b different => by rw [here.others b different]; exact waiting.noThreads b different
  msgs := by rw [here.up,if_pos waiting.sock,waiting.msgs]
  noMsgs := by
    intro sw' different isOpen
    have other : net.sock a ≠ some sw' := by
      rw [waiting.sock]
      exact fun same => different (Option.some.inj same).symm
    rw [here.up,if_neg other]
    exact waiting.noMsgs sw' different (here.closed ▸ isOpen)
  orders := by rw [down,Function.update_self]
  noOrders := by
    intro b sw' different connected
    rw [down,Function.update_of_ne different]
    exact waiting.noOrders b sw' different (here.sock ▸ connected)

/-- A message is handled that is answered over its own connection, if at all. -/
theorem Waiting.controls {msg : ToController} {failing : List Nat} (waiting : Waiting net a sw threads (msg :: msgs) orders)
    (controls : Controls net net' (.receive sw msg failing)) (up : net'.up = Function.update net.up sw msgs)
    (closed : net'.closed = net.closed) (back : ∀ w ∈ (net.controller.step (.receive sw msg failing)).2, w.sw = sw) :
    Waiting net' a sw threads msgs (orders ++ net.sentTo (.receive sw msg failing) a) where
  sock := controls.sock ▸ waiting.sock
  isOpen := closed ▸ waiting.isOpen
  apart := controls.sock ▸ waiting.apart
  threads := by rw [controls.ap]; exact waiting.threads
  noThreads := fun b different => by rw [controls.ap]; exact waiting.noThreads b different
  msgs := by rw [up,Function.update_self]
  noMsgs := by
    intro sw' different isOpen
    rw [up,Function.update_of_ne different]
    exact waiting.noMsgs sw' different (closed ▸ isOpen)
  orders := by
    rw [controls.down,waiting.orders,sentTo,waiting.sock]
    rfl
  noOrders := by
    intro b sw' different connected
    rw [controls.down,waiting.noOrders b sw' different (controls.sock ▸ connected),List.nil_append,
      List.eq_nil_iff_forall_not_mem]
    intro msg' member
    rw [mem_messagesTo] at member
    exact different (back _ (List.mem_filter.mp member).1)

/-! ### The only way on -/

variable [DecidableEq AP]

theorem Waiting.enabled (waiting : Waiting net a sw threads msgs orders) {e : Event AP} (message : Message e)
    (stepped : step cfg net e = some net') :
    (∃ i, e = .thread a i ∧ i < threads.length) ∨ (e = .handle sw [] ∧ msgs ≠ []) ∨ (e = .deliver a ∧ orders ≠ []) := by
  cases e with
  | thread b i =>
    obtain ⟨msg,ran,_⟩ := step_thread stepped
    obtain ⟨thread,found,_⟩ := AccessPoint.sendThread_spec ran
    by_cases same : b = a
    · subst same
      rw [waiting.threads] at found
      exact .inl ⟨i,rfl,(List.getElem?_eq_some_iff.mp found).1⟩
    · rw [waiting.noThreads b same] at found
      cases found
  | handle sw' failing =>
    cases message
    obtain ⟨msg,rest,isOpen,isNext,_⟩ := step_handle stepped
    by_cases same : sw' = sw
    · subst same
      rw [waiting.msgs] at isNext
      exact .inr (.inl ⟨rfl,by simp [isNext]⟩)
    · rw [waiting.noMsgs sw' same isOpen] at isNext
      cases isNext
  | deliver b =>
    obtain ⟨sw',msg,rest,_,connected,isNext,_⟩ := step_deliver stepped
    by_cases same : b = a
    · subst same
      rw [waiting.sock] at connected
      cases connected
      rw [waiting.orders] at isNext
      exact .inr (.inr ⟨rfl,by simp [isNext]⟩)
    · have different : sw' ≠ sw := fun same' => waiting.apart b same (same' ▸ connected)
      rw [waiting.noOrders b sw' different connected] at isNext
      cases isNext
  | _ => exact message.elim

/-- All messages are delivered. -/
def Delivered (cfg : Config AP) : Net AP → Net AP → Prop := Run.Drains (step cfg) Message Quiescent

theorem delivered_nothing (waiting : Waiting net a sw [] [] []) : Delivered cfg net net' ↔ net' = net := by
  refine Run.drains_stuck (fun e next message stepped => ?_) waiting.quiescent
  rcases waiting.enabled message stepped with ⟨i,_,inside⟩ | ⟨_,none_⟩ | ⟨_,none_⟩
  · cases inside
  · exact none_ rfl
  · exact none_ rfl

theorem delivered_thread {thread : Sender} (waiting : Waiting net a sw [thread] [] []) :
    Delivered cfg net net' ↔ ∃ next, step cfg net (.thread a 0) = some next ∧ Delivered cfg next net' := by
  refine Run.drains_only trivial (fun e next message stepped => ?_) (waiting.busy (by simp))
  rcases waiting.enabled message stepped with ⟨i,rfl,inside⟩ | ⟨_,none_⟩ | ⟨_,none_⟩
  · rw [Nat.lt_one_iff.mp inside]
  · exact absurd rfl none_
  · exact absurd rfl none_

theorem delivered_msg {msg : ToController} (waiting : Waiting net a sw [] [msg] []) :
    Delivered cfg net net' ↔ ∃ next, step cfg net (.handle sw []) = some next ∧ Delivered cfg next net' := by
  refine Run.drains_only rfl (fun e next message stepped => ?_) (waiting.busy (by simp))
  rcases waiting.enabled message stepped with ⟨i,_,inside⟩ | ⟨same,_⟩ | ⟨_,none_⟩
  · cases inside
  · exact same
  · exact absurd rfl none_

theorem delivered_order {order : FromController} (waiting : Waiting net a sw [] [] [order]) :
    Delivered cfg net net' ↔ ∃ next, step cfg net (.deliver a) = some next ∧ Delivered cfg next net' := by
  refine Run.drains_only trivial (fun e next message stepped => ?_) (waiting.busy (by simp))
  rcases waiting.enabled message stepped with ⟨i,_,inside⟩ | ⟨_,none_⟩ | ⟨same,_⟩
  · cases inside
  · exact absurd rfl none_
  · exact same

/-- The access point hears the frame, and all messages are delivered. -/
def Exchanged (cfg : Config AP) (a : AP) (input : AccessPoint.Radio) (net net' : Net AP) : Prop :=
  ∃ next, step cfg net (.radio a input) = some next ∧ Delivered cfg next net'

/-! ### One step on -/

theorem Waiting.radio (waiting : Waiting net a sw threads msgs orders) {input : AccessPoint.Radio}
    (stepped : step cfg net (.radio a input) = some net') :
    ∃ sent, (net.ap a).react (cfg.ap a) input = some (net'.ap a,sent) ∧ net'.controller = net.controller ∧
      Waiting net' a sw (net'.ap a).sending (msgs ++ sent) orders := by
  obtain ⟨sent,reacts,here,down,_⟩ := step_radio stepped
  refine ⟨sent,reacts,here.controller,waiting.local here ?_⟩
  rw [down,← waiting.orders,Function.update_eq_self]

theorem Waiting.thread (waiting : Waiting net a sw threads msgs orders) {i : Nat}
    (stepped : step cfg net (.thread a i) = some net') :
    ∃ msg, (net.ap a).sendThread (cfg.ap a) i = some (net'.ap a,msg) ∧ net'.controller = net.controller ∧
      Waiting net' a sw (net'.ap a).sending (msgs ++ [msg]) orders := by
  obtain ⟨msg,ran,here,down,_⟩ := step_thread stepped
  refine ⟨msg,ran,here.controller,waiting.local here ?_⟩
  rw [down,← waiting.orders,Function.update_eq_self]

theorem Waiting.deliver {order : FromController} (waiting : Waiting net a sw threads msgs (order :: orders))
    (stepped : step cfg net (.deliver a) = some net') :
    ∃ sent, (net.ap a).handleVendor (cfg.ap a) order = some (net'.ap a,sent) ∧ net'.controller = net.controller ∧
      Waiting net' a sw (net'.ap a).sending (msgs ++ sent) orders := by
  obtain ⟨sw',order',rest,sent,connected,isNext,handled,here,down,_⟩ := step_deliver stepped
  rw [waiting.sock] at connected
  cases connected
  rw [waiting.orders] at isNext
  cases isNext
  exact ⟨sent,handled,here.controller,waiting.local here down⟩

theorem Waiting.handle {msg : ToController} (waiting : Waiting net a sw threads (msg :: msgs) orders)
    (stepped : step cfg net (.handle sw []) = some net')
    (back : ∀ w ∈ (net.controller.step (.receive sw msg [])).2, w.sw = sw) :
    net'.ap = net.ap ∧ net'.controller = (net.controller.step (.receive sw msg [])).1 ∧
      Waiting net' a sw threads msgs (orders ++ net.sentTo (.receive sw msg []) a) := by
  obtain ⟨msg',rest,_,isNext,controls,up,closed⟩ := step_handle stepped
  rw [waiting.msgs] at isNext
  cases isNext
  exact ⟨controls.ap,controls.controller,waiting.controls controls up closed back⟩

theorem Waiting.handles {msg : ToController} (waiting : Waiting net a sw threads (msg :: msgs) orders) :
    ∃ next, step cfg net (.handle sw []) = some next := by
  simp [step,waiting.isOpen,waiting.msgs]

/-! ### Reports -/

/-- A thread that reports has run: the report is handled, and that is all. -/
theorem delivered_report {thread : Sender} (waiting : Waiting net a sw [thread] [] []) {sta : Mac} {s : STAStatus}
    (reports : (thread.msg (cfg.ap a)).report = some (sta,(cfg.ap a).mac,s)) {sent : Net AP}
    (ran : step cfg net (.thread a 0) = some sent) :
    ∃ final, (∀ net', Delivered cfg net net' ↔ net' = final) ∧ Waiting final a sw [] [] [] ∧
      (final.ap a).status sta = (net.ap a).status sta ∧
      final.controller.status sta (cfg.ap a).mac = (net.controller.status sta (cfg.ap a).mac).map (fun _ => s) := by
  obtain ⟨msg,isSent,controller,waiting'⟩ := waiting.thread ran
  obtain ⟨thread',found,rfl,sending,_,_,status⟩ := AccessPoint.sendThread_spec isSent
  rw [waiting.threads] at found sending
  cases found
  rw [sending] at waiting'
  obtain ⟨final,handled⟩ := @Waiting.handles _ cfg _ _ _ _ _ _ _ _ waiting'
  obtain ⟨silent,learnt⟩ := (sent.controller.does_step (.receive sw (thread.msg (cfg.ap a)) [])).report reports
  obtain ⟨ap,controller',waiting''⟩ := waiting'.handle handled (by simp [silent])
  have noOrders : sent.sentTo (.receive sw (thread.msg (cfg.ap a)) []) a = [] := by
    rw [sentTo,waiting'.sock,silent]
    rfl
  rw [noOrders] at waiting''
  refine ⟨final,fun net' => ?_,waiting'',by rw [ap,status],by rw [controller',learnt,controller]⟩
  calc Delivered cfg net net' ↔ Delivered cfg sent net' := by
        rw [delivered_thread waiting]
        simp only [ran,Option.some.injEq,exists_eq_left']
    _ ↔ Delivered cfg final net' := by
        rw [delivered_msg waiting']
        simp only [handled,Option.some.injEq,exists_eq_left']
    _ ↔ net' = final := delivered_nothing waiting''

/-- A frame by which a station gets on: from the one status to the other, with a
    report of it that can be sent for every listed station. -/
structure Advances (cfg : APConfig) (input : AccessPoint.Radio) (sta : Mac) (guard target : STAStatus)
    (thread : Sender) : Prop where
  reacts : ∀ ap : AccessPoint, ap.react cfg input = (ap.transition sta guard target thread).map (·,[])
  strict : guard ≠ .notAuthenticated
  reports : (thread.msg cfg).report = some (sta,cfg.mac,target)
  runs : ∀ ap : AccessPoint, ap.status sta ≠ none → ∃ result, ap.process cfg thread = some result

theorem advances_auth (cfg : APConfig) (sta : Mac) (authAlg : UInt16) :
    Advances cfg (.auth sta authAlg) sta .selected .authenticated (.message (.authReq sta cfg.mac authAlg)) where
  reacts := fun _ => rfl
  strict := by decide
  reports := rfl
  runs := by
    intro ap known
    obtain ⟨ap',changed⟩ := AccessPoint.changeSTA_returns known (fun info =>
      { info with authAlg := AccessPoint.htons authAlg })
    exact ⟨_,by rw [AccessPoint.process,changed]; rfl⟩

theorem advances_assoc (cfg : APConfig) (sta : Mac) {association : Association}
    (fits : association.supportedRatesLen.toNat ≤ 32) :
    Advances cfg (.assoc sta association) sta .authenticated .associated
      (.message (.assocReq sta cfg.mac association)) where
  reacts := fun _ => rfl
  strict := by decide
  reports := rfl
  runs := by
    intro ap known
    obtain ⟨ap',changed⟩ := AccessPoint.changeSTA_returns known (fun info =>
      { info with
        aid := association.aid
        capability := association.capability
        listenInterval := association.listenInterval
        qosinfo := association.qosinfo
        supportedRates := AccessPoint.copyRates info.supportedRates association.supportedRates association.supportedRatesLen
        supportedRatesLen := association.supportedRatesLen })
    exact ⟨_,by rw [AccessPoint.process,AccessPoint.fillAssociation,if_pos fits,changed]; rfl⟩

omit [DecidableEq AP] in
variable (cfg a) in
/-- The station has got on if it was to, and both records say so. -/
def Advanced (sta : Mac) (guard target : STAStatus) (net final : Net AP) : Prop :=
  if (net.ap a).status sta = some guard then
    (final.ap a).status sta = some target ∧
      final.controller.status sta (cfg.ap a).mac = (net.controller.status sta (cfg.ap a).mac).map (fun _ => target)
  else final.ap a = net.ap a ∧
    final.controller.status sta (cfg.ap a).mac = net.controller.status sta (cfg.ap a).mac

variable {input : AccessPoint.Radio} {sta : Mac} {guard target : STAStatus} {thread : Sender}

/-- The frame has been heard: its report is delivered, if there is one. -/
theorem Advances.delivered (advances : Advances (cfg.ap a) input sta guard target thread)
    (waiting : Waiting net a sw [] [] []) {heard : Net AP} (stepped : step cfg net (.radio a input) = some heard) :
    ∃ final, (∀ net', Delivered cfg heard net' ↔ net' = final) ∧ Waiting final a sw [] [] [] ∧
      Advanced cfg a sta guard target net final := by
  obtain ⟨sent,reacts,controller,waiting'⟩ := waiting.radio stepped
  rw [advances.reacts] at reacts
  obtain ⟨ap,moved,same⟩ := Option.map_eq_some_iff.mp reacts
  cases same
  have spec := AccessPoint.transition_spec advances.strict advances.reports moved
  by_cases passes : (net.ap a).status sta = some guard
  · have sending := AccessPoint.sending_transition moved passes
    rw [if_pos passes] at spec
    rw [waiting.threads] at sending
    rw [sending] at waiting'
    have known : (heard.ap a).status sta = some target := by rw [spec.status,if_pos rfl]
    obtain ⟨result,runs⟩ := advances.runs { heard.ap a with sending := [] } (by
      rw [show ({ heard.ap a with sending := [] } : AccessPoint).status sta = (heard.ap a).status sta from rfl,known]
      simp)
    obtain ⟨next,ran⟩ : ∃ next, step cfg heard (.thread a 0) = some next := by
      simp only [step,AccessPoint.sendThread_single sending runs]
      exact ⟨_,rfl⟩
    obtain ⟨final,only,waiting'',status,learnt⟩ := delivered_report waiting' advances.reports ran
    refine ⟨final,only,waiting'',?_⟩
    rw [Advanced,if_pos passes]
    exact ⟨by rw [status,known],by rw [learnt,controller]⟩
  · rw [if_neg passes] at spec
    rw [spec,waiting.threads] at waiting'
    refine ⟨heard,fun net' => delivered_nothing waiting',waiting',?_⟩
    rw [Advanced,if_neg passes]
    exact ⟨spec,by rw [controller]⟩

/-- What the exchange of the frame comes to. -/
theorem Advances.exchanged (advances : Advances (cfg.ap a) input sta guard target thread)
    (waiting : Waiting net a sw [] [] []) (exchanged : Exchanged cfg a input net net') :
    Waiting net' a sw [] [] [] ∧ Advanced cfg a sta guard target net net' := by
  obtain ⟨heard,stepped,delivered⟩ := exchanged
  obtain ⟨final,only,facts⟩ := advances.delivered waiting stepped
  rwa [(only net').mp delivered]

/-- It is there unless the station's index is outside the table of the access point. -/
theorem Advances.exists_exchanged (advances : Advances (cfg.ap a) input sta guard target thread)
    (waiting : Waiting net a sw [] [] []) (inside : (net.ap a).lookupSenderSTA sta ≠ none) :
    ∃ net', Exchanged cfg a input net net' := by
  obtain ⟨ap,moved⟩ := AccessPoint.transition_returns inside guard target thread
  obtain ⟨heard,stepped⟩ : ∃ heard, step cfg net (.radio a input) = some heard :=
    ⟨_,by simp only [step,advances.reacts,moved]; rfl⟩
  obtain ⟨final,only,_⟩ := advances.delivered waiting stepped
  exact ⟨final,heard,stepped,(only final).mpr rfl⟩

/-! ### The probe -/

/-- A probe request is heard and handled; an offer is on its way, or nothing is. -/
theorem probe_handled (waiting : Waiting net a sw [] [] []) (sta : Mac) :
    ∃ next, (∀ net', Exchanged cfg a (.probe sta) net net' ↔ Delivered cfg next net') ∧ next.ap a = net.ap a ∧
      ((Offers net.controller sta (cfg.ap a).mac ∧ Waiting next a sw [] [] [.addSTA sta] ∧
          next.controller.status sta (cfg.ap a).mac = some .selected) ∨
        (¬ Offers net.controller sta (cfg.ap a).mac ∧ Waiting next a sw [] [] [] ∧
          next.controller.status sta (cfg.ap a).mac = net.controller.status sta (cfg.ap a).mac)) := by
  let asks : Sender := .message (.probe sta (cfg.ap a).mac)
  obtain ⟨heard,stepped⟩ : ∃ heard, step cfg net (.radio a (.probe sta)) = some heard := ⟨_,rfl⟩
  obtain ⟨none_,reacts,controller,waiting'⟩ := waiting.radio stepped
  obtain ⟨isHeard,rfl⟩ : (net.ap a).spawn asks = heard.ap a ∧ [] = none_ := Prod.mk.inj (Option.some.inj reacts)
  have sending : (heard.ap a).sending = [asks] := by
    rw [← isHeard]
    simp [AccessPoint.spawn,waiting.threads]
  rw [sending] at waiting'
  -- the thread leaves the access point as it was
  have runs := @AccessPoint.sendThread_single (cfg.ap a) _ _
    ({ heard.ap a with sending := [] },.probe sta (cfg.ap a).mac) sending rfl
  have back : ({ heard.ap a with sending := [] } : AccessPoint) = net.ap a := by
    rw [← isHeard,← waiting.threads]
    rfl
  obtain ⟨sent,ran⟩ : ∃ sent, step cfg heard (.thread a 0) = some sent := by
    simp only [step,runs]
    exact ⟨_,rfl⟩
  obtain ⟨msg,isSent,controller',waiting''⟩ := waiting'.thread ran
  rw [runs,back] at isSent
  obtain ⟨isAP,rfl⟩ := Prod.mk.inj (Option.some.inj isSent)
  rw [← isAP,waiting.threads] at waiting''
  obtain ⟨next,handled⟩ := @Waiting.handles _ cfg _ _ _ _ _ _ _ _ waiting''
  have path : ∀ net', Exchanged cfg a (.probe sta) net net' ↔ Delivered cfg next net' := by
    intro net'
    calc Exchanged cfg a (.probe sta) net net' ↔ Delivered cfg heard net' := by
          simp only [Exchanged,stepped,Option.some.injEq,exists_eq_left']
      _ ↔ Delivered cfg sent net' := by
          rw [delivered_thread waiting']
          simp only [ran,Option.some.injEq,exists_eq_left']
      _ ↔ Delivered cfg next net' := by
          rw [delivered_msg waiting'']
          simp only [handled,Option.some.injEq,exists_eq_left']
  rw [← controller,← controller']
  by_cases offers : Offers sent.controller sta (cfg.ap a).mac
  · obtain ⟨entry,isStatus,_,isNext⟩ := handleProbeReq_offers offers sw []
    have after : sent.controller.step (.receive sw (.probe sta (cfg.ap a).mac) []) =
        (sent.controller.putEntry sta (cfg.ap a).mac entry,[⟨sw,.addSTA sta⟩]) := isNext
    obtain ⟨ap,isController,isWaiting⟩ := waiting''.handle handled (by simp [after])
    have isSent : sent.sentTo (.receive sw (.probe sta (cfg.ap a).mac) []) a = [.addSTA sta] := by
      simp [sentTo,waiting''.sock,after,messagesTo,encodable]
    rw [isSent] at isWaiting
    refine ⟨next,path,by rw [ap,isAP],.inl ⟨offers,isWaiting,?_⟩⟩
    rw [isController,after,status_putEntry,if_pos ⟨rfl,rfl⟩,isStatus]
  · have after : sent.controller.step (.receive sw (.probe sta (cfg.ap a).mac) []) = (sent.controller,[]) :=
      handleProbeReq_ignores offers sw []
    obtain ⟨ap,isController,isWaiting⟩ := waiting''.handle handled (by simp [after])
    have isSent : sent.sentTo (.receive sw (.probe sta (cfg.ap a).mac) []) a = [] := by
      simp [sentTo,waiting''.sock,after,messagesTo]
    rw [isSent] at isWaiting
    exact ⟨next,path,by rw [ap,isAP],.inr ⟨offers,isWaiting,by rw [isController,after]⟩⟩

variable (cfg a) in
/-- What a probe request comes to: a selected station, an offer that finds no room,
    or nothing. -/
inductive Probed (sta : Mac) (net final : Net AP) : Prop where
  | selected (offers : Offers net.controller sta (cfg.ap a).mac) (room : (net.ap a).HasRoom (cfg.ap a) sta)
    (status : (final.ap a).status sta = some .selected)
    (entry : final.controller.status sta (cfg.ap a).mac = some .selected)
  | full (offers : Offers net.controller sta (cfg.ap a).mac) (full : ¬ (net.ap a).HasRoom (cfg.ap a) sta)
    (same : final.ap a = net.ap a) (entry : final.controller.status sta (cfg.ap a).mac = some .selected)
  | ignored (ignores : ¬ Offers net.controller sta (cfg.ap a).mac) (same : final.ap a = net.ap a)
    (entry : final.controller.status sta (cfg.ap a).mac = net.controller.status sta (cfg.ap a).mac)

theorem exchanged_probe (waiting : Waiting net a sw [] [] []) {sta : Mac}
    (exchanged : Exchanged cfg a (.probe sta) net net') : Waiting net' a sw [] [] [] ∧ Probed cfg a sta net net' := by
  obtain ⟨next,path,ap,⟨offers,isWaiting,entry⟩ | ⟨ignores,isWaiting,entry⟩⟩ := @probe_handled _ cfg _ _ _ _ waiting sta
  · obtain ⟨final,delivered,ends⟩ := (delivered_order isWaiting).mp ((path net').mp exchanged)
    obtain ⟨sent,handled,controller,isWaiting'⟩ := isWaiting.deliver delivered
    rw [ap] at handled
    obtain ⟨rfl,sending,outcome⟩ := AccessPoint.handleVendor_addSTA handled
    rw [sending,waiting.threads] at isWaiting'
    cases (delivered_nothing isWaiting').mp ends
    rcases outcome with ⟨room,status⟩ | ⟨full,same⟩
    · exact ⟨isWaiting',.selected offers room status (by rw [controller,entry])⟩
    · exact ⟨isWaiting',.full offers full same (by rw [controller,entry])⟩
  · cases (delivered_nothing isWaiting).mp ((path net').mp exchanged)
    exact ⟨isWaiting,.ignored ignores ap entry⟩

/-- A probe request comes to something unless the station's index is outside the
    table of the access point. -/
theorem exists_exchanged_probe (waiting : Waiting net a sw [] [] []) {sta : Mac}
    (inside : (net.ap a).lookupSenderSTA sta ≠ none) : ∃ net', Exchanged cfg a (.probe sta) net net' := by
  obtain ⟨next,path,ap,⟨_,isWaiting,_⟩ | ⟨_,isWaiting,_⟩⟩ := @probe_handled _ cfg _ _ _ _ waiting sta
  · obtain ⟨⟨ap',msgs⟩,handled⟩ := @AccessPoint.handleVendor_addSTA_returns (cfg.ap a) _ _ inside
    obtain ⟨final,delivered⟩ : ∃ final, step cfg next (.deliver a) = some final := by
      rw [← ap] at handled
      simp only [step,isWaiting.sock,Option.bind_some,isWaiting.orders,handled]
      exact ⟨_,rfl⟩
    obtain ⟨sent,handled',_,isWaiting'⟩ := isWaiting.deliver delivered
    rw [ap] at handled'
    obtain ⟨rfl,sending,_⟩ := AccessPoint.handleVendor_addSTA handled'
    rw [sending,waiting.threads] at isWaiting'
    exact ⟨final,(path final).mpr ((delivered_order isWaiting).mpr ⟨final,delivered,(delivered_nothing isWaiting').mpr rfl⟩)⟩
  · exact ⟨next,(path next).mpr ((delivered_nothing isWaiting).mpr rfl)⟩

/-! ### Admission -/

variable (cfg a) in
/-- The station sends a probe request, an authentication frame and an association
    request to the access point, and all messages are delivered in between. -/
def Joins (sta : Mac) (association : Association) (net final : Net AP) : Prop :=
  ∃ one two, Exchanged cfg a (.probe sta) net one ∧ Exchanged cfg a (.auth sta 0) one two ∧
    Exchanged cfg a (.assoc sta association) two final

variable (cfg a) in
/-- Both records have the station associated. -/
def Associated (sta : Mac) (net : Net AP) : Prop :=
  (net.ap a).status sta = some .associated ∧ net.controller.status sta (cfg.ap a).mac = some .associated

variable (cfg a) in
/-- The exchange takes place, and however it does it ends with an associated station. -/
def Admitted (sta : Mac) (association : Association) (net : Net AP) : Prop :=
  (∃ final, Joins cfg a sta association net final) ∧
    ∀ final, Joins cfg a sta association net final → Associated cfg a sta final

variable (cfg a) in
/-- The station would be offered admission and there is room for it, or it has got half
    way here before and the controller has an entry for it. -/
def Admissible (sta : Mac) (net : Net AP) : Prop :=
  Offers net.controller sta (cfg.ap a).mac ∧ (net.ap a).HasRoom (cfg.ap a) sta ∨
    net.controller.status sta (cfg.ap a).mac ≠ none ∧
      ((net.ap a).status sta = some .selected ∨ (net.ap a).status sta = some .authenticated)

omit [DecidableEq AP] in
/-- After the probe, the station gets through from half way and from nowhere else. -/
theorem associated_iff {one two final : Net AP} (auth : Advanced cfg a sta .selected .authenticated one two)
    (assoc : Advanced cfg a sta .authenticated .associated two final)
    (free : one.controller.status sta (cfg.ap a).mac ≠ some .associated) :
    Associated cfg a sta final ↔ one.controller.status sta (cfg.ap a).mac ≠ none ∧
      ((one.ap a).status sta = some .selected ∨ (one.ap a).status sta = some .authenticated) := by
  unfold Advanced at auth assoc
  unfold Associated
  by_cases isSelected : (one.ap a).status sta = some .selected
  · rw [if_pos isSelected] at auth
    rw [if_pos auth.1,auth.2] at assoc
    rw [assoc.1,assoc.2,isSelected]
    cases one.controller.status sta (cfg.ap a).mac <;> simp
  · rw [if_neg isSelected] at auth
    rw [auth.1,auth.2] at assoc
    by_cases isAuthenticated : (one.ap a).status sta = some .authenticated
    · rw [if_pos isAuthenticated] at assoc
      rw [assoc.1,assoc.2,isAuthenticated]
      cases one.controller.status sta (cfg.ap a).mac <;> simp
    · rw [if_neg isAuthenticated] at assoc
      rw [assoc.1,assoc.2]
      simp [isSelected,isAuthenticated,free]

variable {association : Association}

/-- What an exchange says of the state that it starts from. -/
theorem Joins.associated_iff (joins : Joins cfg a sta association net net') (waiting : Waiting net a sw [] [] [])
    (fits : association.supportedRatesLen.toNat ≤ 32)
    (free : net.controller.status sta (cfg.ap a).mac ≠ some .associated) :
    Associated cfg a sta net' ↔ Admissible cfg a sta net := by
  obtain ⟨one,two,probe,auth,assoc⟩ := joins
  obtain ⟨waiting1,probed⟩ := exchanged_probe waiting probe
  obtain ⟨waiting2,auth⟩ := (advances_auth (cfg.ap a) sta 0).exchanged waiting1 auth
  obtain ⟨_,assoc⟩ := (advances_assoc (cfg.ap a) sta fits).exchanged waiting2 assoc
  unfold Admissible
  cases probed with
  | selected offers room status entry =>
    rw [Net.associated_iff auth assoc (by simp [entry]),status,entry]
    simp [offers,room]
  | full offers full same entry =>
    have unknown : (net.ap a).status sta = none := by
      by_contra known
      exact full (.inl known)
    rw [Net.associated_iff auth assoc (by simp [entry]),same,unknown]
    simp [full]
  | ignored ignores same entry =>
    rw [Net.associated_iff auth assoc (by rwa [entry]),same,entry]
    simp [ignores]

/-- The exchange takes place unless the station's index is outside the table. -/
theorem exists_joins (waiting : Waiting net a sw [] [] []) (fits : association.supportedRatesLen.toNat ≤ 32)
    (inside : (net.ap a).lookupSenderSTA sta ≠ none) : ∃ final, Joins cfg a sta association net final := by
  obtain ⟨one,probe⟩ := @exists_exchanged_probe _ cfg _ _ _ _ waiting sta inside
  obtain ⟨waiting1,probed⟩ := exchanged_probe waiting probe
  have inside1 : (one.ap a).lookupSenderSTA sta ≠ none := by
    cases probed with
    | selected offers room status entry => exact AccessPoint.inside_of_status (by simp [status])
    | full offers full same entry => rwa [same]
    | ignored ignores same entry => rwa [same]
  obtain ⟨two,auth⟩ := (advances_auth (cfg.ap a) sta 0).exists_exchanged waiting1 inside1
  obtain ⟨waiting2,advanced⟩ := (advances_auth (cfg.ap a) sta 0).exchanged waiting1 auth
  have inside2 : (two.ap a).lookupSenderSTA sta ≠ none := by
    unfold Advanced at advanced
    split at advanced
    · exact AccessPoint.inside_of_status (by simp [advanced.1])
    · rwa [advanced.1]
  obtain ⟨final,assoc⟩ := (advances_assoc (cfg.ap a) sta fits).exists_exchanged waiting2 inside2
  exact ⟨final,one,two,probe,auth,assoc⟩

/-- From every state of rest that can be reached, a station that is associated nowhere
    is admitted at a connected access point exactly if it is admissible there. -/
theorem admitted_iff_admissible {events : List (Event AP)} (ran : Run.run (step cfg) (init cfg) events = some net)
    (quiescent : Quiescent net) (free : ∀ b, net.controller.status sta (cfg.ap b).mac ≠ some .associated)
    (connected : net.sock a = some sw) (isOpen : sw ∉ net.closed) (fits : association.supportedRatesLen.toNat ≤ 32) :
    Admitted cfg a sta association net ↔ Admissible cfg a sta net := by
  have waiting := quiescent.waiting (linked_run ran) connected isOpen
  constructor
  · rintro ⟨⟨final,joins⟩,all⟩
    exact (joins.associated_iff waiting fits (free a)).mp (all final joins)
  · intro admissible
    have inside : (net.ap a).lookupSenderSTA sta ≠ none := by
      rcases admissible with ⟨_,room⟩ | ⟨_,isSelected | isAuthenticated⟩
      · exact room.inside
      · exact AccessPoint.inside_of_status (by simp [isSelected])
      · exact AccessPoint.inside_of_status (by simp [isAuthenticated])
    exact ⟨exists_joins waiting fits inside,
      fun final joins => (joins.associated_iff waiting fits (free a)).mpr admissible⟩

end

/-! ### An attempt that was given up -/

/-- Nothing is on its way to, from or in the access points of the sample site. -/
def atRest (net : Net Site) : Bool :=
  [Site.left,Site.right].all (fun a => (net.ap a).sending = [] && net.inbox a = []) &&
    net.opened.zipIdx.all (fun connection => net.up ⟨connection.2,connection.1.2⟩ = [])

theorem quiescent_of_atRest {net : Net Site} (linked : Linked site net) (passes : atRest net = true) : Quiescent net := by
  simp only [atRest,List.all_cons,List.all_nil,Bool.and_true,Bool.and_eq_true,decide_eq_true_eq] at passes
  obtain ⟨⟨isLeft,isRight⟩,queues⟩ := passes
  refine ⟨?_,?_,?_⟩
  · intro a
    cases a with
    | left => exact isLeft.1
    | right => exact isRight.1
  · intro a
    cases a with
    | left => exact isLeft.2
    | right => exact isRight.2
  · intro sw _
    rw [List.eq_nil_iff_forall_not_mem]
    intro msg member
    -- only connections that were opened carry messages
    obtain ⟨party,isPeer,_⟩ := linked.up sw msg member
    obtain ⟨connection,found,same⟩ := Option.bind_eq_some_iff.mp isPeer
    have inside : (connection,sw.id) ∈ net.opened.zipIdx := by
      rw [List.mk_mem_zipIdx_iff_getElem?]
      exact found
    have empty := List.all_eq_true.mp queues _ inside
    split at same
    · rename_i address
      simp only [address,decide_eq_true_eq] at empty
      rw [empty] at member
      cases member
    · cases same

/-- The visitor is offered admission at the left access point, and goes on. -/
def givenUp : List (Event Site) := bothConnect ++ probeAt .left

/-- The state that it leaves behind. -/
theorem givenUp_rests : ∃ net, Run.run (step site) (init site) givenUp = some net ∧ Quiescent net ∧
    (net.controller.status visitor (site.ap .left).mac = some .selected ∧
      net.controller.status visitor (site.ap .right).mac = none) ∧
    (∀ b ∈ [Site.left,Site.right], net.sock b = some b.switch ∧ b.switch ∉ net.closed) ∧
    (net.ap .left).status visitor = some .selected ∧ (net.ap .right).lookupSenderSTA visitor = some none := by
  obtain ⟨net,ran,rests,facts⟩ : ∃ net, Run.run (step site) (init site) givenUp = some net ∧ atRest net = true ∧
      (net.controller.status visitor (site.ap .left).mac = some .selected ∧
        net.controller.status visitor (site.ap .right).mac = none) ∧
      (∀ b ∈ [Site.left,Site.right], net.sock b = some b.switch ∧ b.switch ∉ net.closed) ∧
      (net.ap .left).status visitor = some .selected ∧ (net.ap .right).lookupSenderSTA visitor = some none :=
    Run.exists_run (by decide +kernel)
  exact ⟨net,ran,quiescent_of_atRest (linked_run ran) rests,facts⟩

theorem free_of_statuses {c : Controller} (isLeft : c.status visitor (site.ap .left).mac = some .selected)
    (isRight : c.status visitor (site.ap .right).mac = none) (b : Site) :
    c.status visitor (site.ap b).mac ≠ some .associated := by
  cases b with
  | left => simp [isLeft]
  | right => simp [isRight]

/-- Then it goes through the whole exchange at the right one in vain. -/
theorem given_up_locked_out : ∃ net final, Run.run (step site) (init site) givenUp = some net ∧ Quiescent net ∧
    (∀ b, net.controller.status visitor (site.ap b).mac ≠ some .associated) ∧
    net.sock .right = some Site.right.switch ∧ Site.right.switch ∉ net.closed ∧
    Joins site .right visitor ⟨1,0,0,Vector.replicate 32 0,0,0⟩ net final ∧ ¬ Associated site .right visitor final := by
  obtain ⟨net,ran,quiescent,⟨isLeft,isRight⟩,links,_,inside⟩ := givenUp_rests
  obtain ⟨connected,isOpen⟩ := links .right (by simp)
  have waiting := quiescent.waiting (linked_run ran) connected isOpen
  have free := free_of_statuses isLeft isRight
  obtain ⟨final,joins⟩ := @exists_joins _ site _ _ _ _ visitor ⟨1,0,0,Vector.replicate 32 0,0,0⟩ waiting (by decide)
    (by simp [inside])
  refine ⟨net,final,ran,quiescent,free,connected,isOpen,joins,?_⟩
  rw [joins.associated_iff waiting (by decide) (free .right)]
  rintro (⟨offers,_⟩ | ⟨known,_⟩)
  · exact offers.1 (site.ap .left).mac (by decide) isLeft
  · exact known isRight

/-- At the left access point it could still be admitted. -/
theorem given_up_admitted_there : ∃ net, Run.run (step site) (init site) givenUp = some net ∧
    Admitted site .left visitor ⟨1,0,0,Vector.replicate 32 0,0,0⟩ net := by
  obtain ⟨net,ran,quiescent,⟨isLeft,isRight⟩,links,isSelected,_⟩ := givenUp_rests
  obtain ⟨connected,isOpen⟩ := links .left (by simp)
  refine ⟨net,ran,?_⟩
  rw [admitted_iff_admissible ran quiescent (free_of_statuses isLeft isRight) connected isOpen (by decide)]
  exact .inr ⟨by simp [isLeft],.inl isSelected⟩

end Net
end Handover
