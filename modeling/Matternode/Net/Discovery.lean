/-
  File:      Matternode/Net/Discovery.lean
  Subject:   mDNS discovery: what a node answers, what it prints of an answer, and a link of nodes.

  The packets are those of multicast-dns, after it has read them: a record has a name and data of
  its type. A packet that leaves a node may arrive anywhere on the link, late, often or never. One
  that the package does not carry as it stands (`sendable`) is left out of the link.

  * `onQuery`, `onOperationalDiscovery`, `onCommissionableDiscovery` -- the answers;
  * `onResponse` -- the line that is printed for an answer;
  * `doMdns` -- the shell's command;
  * `Link`, `step` -- nodes on a link, with what was sent and what was printed;
  * `target_run` -- a node answers under the name it had when it was last initialised;
  * **`printed_truthful`** -- every line tells what the node that was asked was, when it was asked;
  * **`browse_answered`** -- what a query of `mdns` brings about.
-/
import Mathlib.Data.List.Induction
import Mathlib.Data.List.Infix
import Matternode.Base.Machine
import Matternode.Platform.PersistantStore

namespace Matternode.Net

open Base Js Platform

/-! ## 1. Packets -/

def MDNS_TTL_TIMEOUT : Nat := 120
def MDNS_DOMAIN_OPERATIONAL : String := "_matter._tcp.local"
def MDNS_DOMAIN_COMMISSIONABLE : String := "_matterc._udp.local"
def MDNS_DOMAIN_COMMISSIONER : String := "_matterd._udp.local"

/-- The type of a record and its data. -/
inductive RecordData where
  | PTR (name : String)
  | SRV (port : Option Setting) (weight priority : Nat) (target : String)
  | AAAA (address : Option String)
  | TXT (texts : List String)
  | other (type text : String)

/-- The text of `entry['data']`, nothing where it is undefined. -/
def RecordData.text : RecordData → Option String
  | .PTR name => some name
  | .SRV .. => some "[object Object]"
  | .AAAA address => address
  | .TXT texts => some (String.intercalate "," texts)
  | .other _ text => some text

structure Record where
  name : String
  data : RecordData
  ttl : Nat := MDNS_TTL_TIMEOUT
  recordClass : Option String := some "IN"
  flush : Option Bool := none

structure Response where
  answers : List Record
  additionals : List Record := []

inductive QuestionType where
  | PTR | ANY
  | other (name : String)
  deriving DecidableEq

structure Question where
  name : String
  type : QuestionType

/-- `text.includes(part)`. -/
def includes (text part : String) : Bool := part.toList <:+: text.toList

/-! ## 2. Interfaces -/

structure Address where
  family : Setting
  address : String

/-- `Netif.getIpv6(iface)`, given the addresses of the interface. -/
def getIpv6 (addresses : List Address) : Option String :=
  (addresses.find? fun a => a.family = .text "IPv6" ∨ a.family = .number (.int 6)).map (·.address)

/-- A listener of multicast-dns, with the address that it answers for. -/
structure Mdns where
  iface : String
  ip6Addr : Option String
  loopback : Bool
  deriving DecidableEq

def initListener (darwin : Bool) (iface : String) (ipAddr : Option String) : Option Mdns :=
  if darwin then some ⟨iface, ipAddr, includes iface "%lo"⟩
  else if includes iface "%lo" then none
  else some ⟨iface, ipAddr, true⟩

structure Discovery where
  mdnsTarget : String := "null"
  mdnsInterfaces : List Mdns := []

/-- `update()`, given the interfaces of the host. -/
def Discovery.update (darwin : Bool) (netifs : List (String × List Address)) (d : Discovery) :
    Discovery :=
  { d with
    mdnsInterfaces := netifs.filterMap fun netif =>
      initListener darwin ("::%" ++ netif.1) (getIpv6 netif.2) }

/-- A host, as discovery finds it when it is constructed. -/
structure Machine where
  darwin : Bool
  netifs : List (String × List Address)

/-- `new Discovery()`. -/
def Machine.discovery (machine : Machine) : Discovery :=
  ({} : Discovery).update machine.darwin machine.netifs

def Machine.listeners (machine : Machine) : List Mdns := machine.discovery.mdnsInterfaces

/-! ## 3. Answers -/

/-- A node, as far as discovery reads it. -/
structure Node where
  store : PersistantStore
  discovery : Discovery

/-- `get IpPort()`. -/
def Node.IpPort (a : Node) : Option Setting := a.store.ipPort

def onOperationalDiscovery (a : Node) (ip6Addr : Option String) : Response where
  answers :=
    [{ name := a.discovery.mdnsTarget ++ "." ++ MDNS_DOMAIN_OPERATIONAL
       data := .TXT ["test"]
       flush := some true },
     { name := a.discovery.mdnsTarget ++ "." ++ MDNS_DOMAIN_OPERATIONAL
       data := .SRV a.IpPort 0 0 a.discovery.mdnsTarget
       recordClass := none
       flush := some true },
     { name := a.discovery.mdnsTarget ++ ".local"
       data := .AAAA ip6Addr
       flush := some true },
     { name := MDNS_DOMAIN_OPERATIONAL
       data := .PTR (a.discovery.mdnsTarget ++ "." ++ MDNS_DOMAIN_OPERATIONAL) }]

def instanceName : String := "914CE95294D70845"
def servicesName : String := "_services._dns-sd._udp.local"
def vendorID : Nat := 65521
def discriminator : Nat := 0

/-- The names that the service is also found under. -/
def subtypes : List String :=
  ["_V" ++ toString vendorID, "_S" ++ toString discriminator, "_L" ++ toString discriminator,
    "_CM"].map fun subtype => subtype ++ "._sub." ++ MDNS_DOMAIN_COMMISSIONABLE

def onCommissionableDiscovery (a : Node) (ip6Addr : Option String) : Response where
  answers :=
    ((MDNS_DOMAIN_COMMISSIONABLE :: subtypes).map fun name =>
      { name := servicesName, data := .PTR name, flush := some false }) ++
    ((subtypes ++ [MDNS_DOMAIN_COMMISSIONABLE]).map fun name =>
      { name := name
        data := .PTR (instanceName ++ "." ++ MDNS_DOMAIN_COMMISSIONABLE)
        flush := some false })
  additionals :=
    [{ name := instanceName ++ "." ++ MDNS_DOMAIN_COMMISSIONABLE
       data := .SRV a.IpPort 0 0 (instanceName ++ ".local")
       flush := some false },
     { name := instanceName ++ ".local"
       data := .AAAA ip6Addr
       flush := some false },
     { name := instanceName ++ "._matterc._udp.local"
       data := .TXT ["VP=" ++ toString vendorID ++ "+32769", "SII=5000", "SAI=300", "T=1",
         "D=" ++ toString discriminator, "CM=1", "PH=33", "PI="]
       ttl := 4500
       flush := some false }]

/-- The answer to one question. -/
def onQuestion (a : Node) (ip6Addr : Option String) (q : Question) : Option Response :=
  if q.type = .PTR ∨ q.type = .ANY then
    if includes q.name MDNS_DOMAIN_OPERATIONAL then some (onOperationalDiscovery a ip6Addr)
    else if q.name = MDNS_DOMAIN_COMMISSIONABLE then some (onCommissionableDiscovery a ip6Addr)
    else none
  else none

def onQuery (a : Node) (ip6Addr : Option String) (questions : List Question) : List Response :=
  questions.filterMap (onQuestion a ip6Addr)

/-! ## 4. What is printed of an answer -/

/-- The variables of `onResponse`. -/
structure Found where
  node : Option String := none
  ip : Option String := none
  port : Option String := none
  txt : Option (List String) := none
  service : String := "matter"

/-- A port as text; null is none. -/
def portText (port : Option Setting) : String := port.elim "null" Setting.toText

/-- What both loops read of a record. -/
def Found.locate (f : Found) (entry : Record) : Found :=
  match entry.data with
  | .AAAA address => { f with ip := address }
  | .SRV port _ _ _ => { f with port := some (portText port) }
  | _ => f

def Found.answer (f : Found) (entry : Record) : Found :=
  let f := if entry.name = MDNS_DOMAIN_OPERATIONAL then { f with node := entry.data.text } else f
  let f := if entry.name = MDNS_DOMAIN_COMMISSIONABLE then
    { f with service := "matterc", node := entry.data.text } else f
  f.locate entry

def Found.additional (f : Found) (entry : Record) : Found :=
  match entry.data with
  | .TXT texts => { f with txt := some texts }
  | _ => f.locate entry

def printedLine (node ip port iface service : String) : String :=
  "mdns response: " ++ node ++ " @ [" ++ ip ++ "]:" ++ port ++ "  " ++ iface ++ "  service=" ++
    service

/-- The line that is printed for an answer, if there is one. -/
def onResponse (response : Response) (iface : String) : Option String :=
  let f := response.additionals.foldl Found.additional (response.answers.foldl Found.answer {})
  f.node.map fun node =>
    printedLine node (f.ip.getD "undefined") (f.port.getD "undefined") iface f.service

/-! ## 5. The shell -/

structure MdnsArgs where
  help : Bool := false
  matterc : Bool := false
  matterd : Bool := false

def MdnsArgs.serviceName (argv : MdnsArgs) : String :=
  if argv.matterc then MDNS_DOMAIN_COMMISSIONABLE
  else if argv.matterd then MDNS_DOMAIN_COMMISSIONER
  else MDNS_DOMAIN_OPERATIONAL

/-- `doMdns(args)`: the query that leaves on every interface. -/
def doMdns (argv : MdnsArgs) : Option (List Question) :=
  if argv.help then none else some [⟨argv.serviceName, .PTR⟩]

/-! ## 6. Nodes on a link -/

section Link

variable {ι : Type} [DecidableEq ι] (H : Host) (sendable : Response → Bool)

/-- Nodes on a link: every answer that was sent, and every line that was printed, by whom. -/
structure Link (ι : Type) where
  nodes : ι → Node
  sent : List Response := []
  printed : List (ι × String) := []

inductive Event (ι : Type) where
  /-- `Node.init`; `store` is what `Store.init` leaves. -/
  | init (n : ι) (store : PersistantStore)
  | config (n : ι) (call : Call)
  /-- A query, of whomever, arrives at an interface of the node. -/
  | query (n : ι) (i : Nat) (questions : List Question)
  /-- An answer that was sent arrives at an interface of the node, not for the first time maybe. -/
  | response (n : ι) (i k : Nat)

/-- The `i`th interface of a node. -/
def Link.interface (s : Link ι) (n : ι) (i : Nat) : Option Mdns :=
  (s.nodes n).discovery.mdnsInterfaces[i]?

def Link.setNode (s : Link ι) (n : ι) (a : Node) : Link ι :=
  { s with nodes := Function.update s.nodes n a }

/-- What leaves a node for the questions at its interface. -/
def Link.answers (s : Link ι) (n : ι) (i : Nat) (questions : List Question) : List Response :=
  (s.interface n i).elim [] fun mdns =>
    (onQuery (s.nodes n) mdns.ip6Addr questions).filter sendable

/-- What is printed for an answer at an interface. -/
def Link.line (s : Link ι) (n : ι) (i k : Nat) : Option String := do
  let own ← s.interface n i
  let response ← s.sent[k]?
  onResponse response own.iface

def step (s : Link ι) : Event ι → Link ι
  | .init n store =>
    s.setNode n ⟨store, { (s.nodes n).discovery with mdnsTarget := store.mdnsTarget }⟩
  | .config n call => s.setNode n { s.nodes n with store := (s.nodes n).store.step H call }
  | .query n i questions => { s with sent := s.sent ++ s.answers sendable n i questions }
  | .response n i k => { s with printed := s.printed ++ (s.line n i k).toList.map (n, ·) }

/-- Nodes that were constructed, and not initialised. -/
def constructed (stores : ι → PersistantStore) (machines : ι → Machine) : Link ι where
  nodes n := ⟨stores n, (machines n).discovery⟩

/-- The store that the node is initialised with by the event. -/
def Event.initOf (n : ι) : Event ι → Option PersistantStore
  | .init m store => if m = n then some store else none
  | _ => none

/-- The store that a node was last initialised with. -/
def lastInit (n : ι) (es : List (Event ι)) : Option PersistantStore :=
  es.reverse.findSome? (Event.initOf n)

/-- The name that a node answers under. -/
def lastTarget (n : ι) (es : List (Event ι)) : String :=
  (lastInit n es).elim "null" PersistantStore.mdnsTarget

/-! ## 7. Names that are no service -/

/-- A name that `onResponse` does not take for a service. -/
def Plain (name : String) : Prop :=
  name ≠ MDNS_DOMAIN_OPERATIONAL ∧ name ≠ MDNS_DOMAIN_COMMISSIONABLE

/-- The targets of nodes: the one of the constructor, and those of stores. -/
def IsTarget (target : String) : Prop := target = "null" ∨ '-' ∈ target.toList

theorem isTarget_mdnsTarget (s : PersistantStore) : IsTarget s.mdnsTarget := by
  refine .inr ?_
  unfold PersistantStore.mdnsTarget
  simp only [String.toList_append, List.mem_append]
  exact .inl (.inr (by decide))

/-- A name is no service where it has what neither of them has. -/
theorem plain_of {P : List Char → Prop} {name : String} (h : P name.toList)
    (hoperational : ¬ P MDNS_DOMAIN_OPERATIONAL.toList)
    (hcommissionable : ¬ P MDNS_DOMAIN_COMMISSIONABLE.toList) : Plain name := by
  constructor
  · intro heq
    exact hoperational (heq ▸ h)
  · intro heq
    exact hcommissionable (heq ▸ h)

/-- The host name of a target is no service. -/
theorem plain_host {target : String} (h : IsTarget target) : Plain (target ++ ".local") := by
  rcases h with rfl | hdash
  · constructor <;> decide
  · have hmem : '-' ∈ (target ++ ".local").toList := by
      rw [String.toList_append]
      exact List.mem_append_left _ hdash
    exact plain_of (P := fun cs => '-' ∈ cs) hmem (by decide) (by decide)

/-- The name of an instance is no service, none ends so. -/
theorem plain_instance (target : String) : Plain (target ++ "." ++ MDNS_DOMAIN_OPERATIONAL) := by
  have hsuffix : ("." ++ MDNS_DOMAIN_OPERATIONAL).toList <:+
      (target ++ "." ++ MDNS_DOMAIN_OPERATIONAL).toList := by
    rw [String.append_assoc]
    exact ⟨target.toList, (String.toList_append ..).symm⟩
  exact plain_of (P := fun cs => ("." ++ MDNS_DOMAIN_OPERATIONAL).toList <:+ cs) hsuffix (by decide)
    (by decide)

/-! ## 8. Lines -/

/-- The line for the answer that the node gives now, on the interface, under the target. -/
def operationalLine (target : String) (a : Node) (mdns own : Mdns) : String :=
  printedLine (target ++ "." ++ MDNS_DOMAIN_OPERATIONAL) (mdns.ip6Addr.getD "undefined")
    (portText a.IpPort) own.iface "matter"

def commissionableLine (a : Node) (mdns own : Mdns) : String :=
  printedLine (instanceName ++ "." ++ MDNS_DOMAIN_COMMISSIONABLE) (mdns.ip6Addr.getD "undefined")
    (portText a.IpPort) own.iface "matterc"

/-- **The answer of a node is printed as what the node is.** -/
theorem onResponse_operational {a : Node} (h : IsTarget a.discovery.mdnsTarget) (mdns own : Mdns) :
    onResponse (onOperationalDiscovery a mdns.ip6Addr) own.iface =
      some (operationalLine a.discovery.mdnsTarget a mdns own) := by
  obtain ⟨hhost, hhost'⟩ := plain_host h
  obtain ⟨hname, hname'⟩ := plain_instance a.discovery.mdnsTarget
  have hservice : MDNS_DOMAIN_OPERATIONAL ≠ MDNS_DOMAIN_COMMISSIONABLE := by decide
  simp only [onResponse, onOperationalDiscovery, List.foldl_cons, List.foldl_nil, Found.answer,
    Found.locate, hhost, hhost', hname, hname', hservice, if_false, if_true, RecordData.text,
    Option.map_some, Option.getD_some, operationalLine]

theorem onResponse_commissionable (a : Node) (mdns own : Mdns) :
    onResponse (onCommissionableDiscovery a mdns.ip6Addr) own.iface =
      some (commissionableLine a mdns own) := rfl

/-! ## 9. Runs -/

variable {H sendable}

theorem lastInit_snoc (n : ι) (es : List (Event ι)) (e : Event ι) :
    lastInit n (es ++ [e]) = (e.initOf n).or (lastInit n es) := by
  unfold lastInit
  rw [List.reverse_append, List.reverse_singleton, List.singleton_append, List.findSome?_cons]
  cases e.initOf n <;> rfl

theorem setNode_self (s : Link ι) (n : ι) (a : Node) : (s.setNode n a).nodes n = a :=
  Function.update_self ..

theorem setNode_ne (s : Link ι) {n m : ι} (a : Node) (h : n ≠ m) :
    (s.setNode m a).nodes n = s.nodes n :=
  Function.update_of_ne h ..

section Run

variable {stores : ι → PersistantStore} {machines : ι → Machine}

/-- The link after the events. -/
def after (H : Host) (sendable : Response → Bool) (stores : ι → PersistantStore)
    (machines : ι → Machine) (es : List (Event ι)) : Link ι :=
  run (step H sendable) (constructed stores machines) es

theorem after_snoc (es : List (Event ι)) (e : Event ι) :
    after H sendable stores machines (es ++ [e]) =
      step H sendable (after H sendable stores machines es) e :=
  run_append ..

/-- **A node answers under the name it was last initialised with**, whatever its store says since;
    and its interfaces are those it was constructed with. -/
theorem target_run (es : List (Event ι)) (n : ι) :
    ((after H sendable stores machines es).nodes n).discovery =
      ⟨lastTarget n es, (machines n).listeners⟩ := by
  induction es using List.reverseRecOn with
  | nil => rfl
  | append_singleton es e ih =>
    rw [after_snoc, lastTarget, lastInit_snoc]
    cases e with
    | init m store =>
      by_cases h : n = m
      · subst h
        rw [step, setNode_self, ih, Event.initOf, if_pos rfl]
        rfl
      · rw [step, setNode_ne _ _ h, ih, Event.initOf, if_neg (Ne.symm h)]
        rfl
    | config m call =>
      by_cases h : n = m
      · subst h
        rw [step, setNode_self, ih]
        rfl
      · rw [step, setNode_ne _ _ h, ih]
        rfl
    | query m i questions => exact ih
    | response m i k => exact ih

theorem isTarget_run (es : List (Event ι)) (n : ι) : IsTarget (lastTarget n es) := by
  unfold lastTarget
  cases lastInit n es with
  | none => exact .inl rfl
  | some store => exact isTarget_mdnsTarget store

/-! ## 10. Where a line comes from -/

/-- A question of a run: what happened before its packet arrived, the node and the interface that
    the packet reached, and its place among the questions of the packet. -/
structure Asking (ι : Type) where
  earlier : List (Event ι)
  node : ι
  i : Nat
  mdns : Mdns
  before : List Question
  question : Question
  behind : List Question

def Asking.query (q : Asking ι) : Event ι :=
  .query q.node q.i (q.before ++ q.question :: q.behind)

/-- The `k`th answer of the link is `r`, and the node gave it to the question as it was then, on the
    interface that was asked; the answers to the earlier questions of the packet left before it. -/
structure Answered (H : Host) (sendable : Response → Bool) (stores : ι → PersistantStore)
    (machines : ι → Machine) (q : Asking ι) (k : Nat) (r : Response) : Prop where
  listener : (machines q.node).listeners[q.i]? = some q.mdns
  given : onQuestion ((after H sendable stores machines q.earlier).nodes q.node) q.mdns.ip6Addr
    q.question = some r
  left : sendable r = true
  place : k = (after H sendable stores machines q.earlier).sent.length +
    ((onQuery ((after H sendable stores machines q.earlier).nodes q.node) q.mdns.ip6Addr
      q.before).filter sendable).length

/-- The line tells what the node that was asked is, for what it was asked. -/
inductive Tells (target : String) (a : Node) (mdns own : Mdns) (q : Question) : String → Prop
  | operational (h : includes q.name MDNS_DOMAIN_OPERATIONAL = true) :
      Tells target a mdns own q (operationalLine target a mdns own)
  | commissionable (h : q.name = MDNS_DOMAIN_COMMISSIONABLE) :
      Tells target a mdns own q (commissionableLine a mdns own)

/-- The `p`th line was printed by the node when an answer arrived that was sent for a question of
    the run, and tells what the node that answered was when the question reached it: the name that
    it answered under, the address of the interface that was asked, and the port that it had. -/
def Truthful (H : Host) (sendable : Response → Bool) (stores : ι → PersistantStore)
    (machines : ι → Machine) (es : List (Event ι)) (p : Nat) (n : ι) (line : String) : Prop :=
  ∃ (q : Asking ι) (between later : List (Event ι)) (j k : Nat) (own : Mdns) (r : Response),
    es = q.earlier ++ q.query :: between ++ .response n j k :: later ∧
    p = (after H sendable stores machines (q.earlier ++ q.query :: between)).printed.length ∧
    (machines n).listeners[j]? = some own ∧ Answered H sendable stores machines q k r ∧
    Tells (lastTarget q.node q.earlier) ((after H sendable stores machines q.earlier).nodes q.node)
      q.mdns own q.question line

theorem interface_run {es : List (Event ι)} {n : ι} {i : Nat} :
    (after H sendable stores machines es).interface n i = (machines n).listeners[i]? := by
  unfold Link.interface
  rw [target_run]

/-- A question that is answered asks for one of the two services. -/
theorem onQuestion_some {a : Node} {ip6Addr : Option String} {q : Question} {r : Response}
    (h : onQuestion a ip6Addr q = some r) :
    includes q.name MDNS_DOMAIN_OPERATIONAL = true ∧ r = onOperationalDiscovery a ip6Addr ∨
      q.name = MDNS_DOMAIN_COMMISSIONABLE ∧ r = onCommissionableDiscovery a ip6Addr := by
  unfold onQuestion at h
  split at h
  · split at h
    · rename_i hincludes
      exact .inl ⟨hincludes, (Option.some.inj h).symm⟩
    · split at h
      · rename_i hname
        exact .inr ⟨hname, (Option.some.inj h).symm⟩
      · cases h
  · cases h

/-- What is printed of an answer tells of the node that gave it. -/
theorem Answered.printed {q : Asking ι} {k : Nat} {r : Response} {own : Mdns} {line : String}
    (h : Answered H sendable stores machines q k r) (hline : onResponse r own.iface = some line) :
    Tells (lastTarget q.node q.earlier) ((after H sendable stores machines q.earlier).nodes q.node)
      q.mdns own q.question line := by
  have htarget := @target_run ι _ H sendable stores machines q.earlier q.node
  rcases onQuestion_some h.given with ⟨hname, rfl⟩ | ⟨hname, rfl⟩
  · rw [onResponse_operational (by rw [htarget]; exact isTarget_run ..), htarget] at hline
    obtain rfl := Option.some.inj hline
    exact .operational hname
  · obtain rfl := Option.some.inj hline
    exact .commissionable hname

/-- What is at a place of the kept answers was given to one question, and those before it to the
    questions before. -/
theorem filterMap_getElem? {α β : Type} {f : α → Option β} {keep : β → Bool} {l : List α}
    {k : Nat} {b : β} (h : ((l.filterMap f).filter keep)[k]? = some b) :
    ∃ l₁ a l₂, l = l₁ ++ a :: l₂ ∧ f a = some b ∧ keep b = true ∧
      k = ((l₁.filterMap f).filter keep).length := by
  induction l generalizing k with
  | nil => cases h
  | cons a l ih =>
    -- an element that is answered with something that is kept takes the first place
    by_cases hfirst : ∃ b', f a = some b' ∧ keep b' = true
    · obtain ⟨b', hb', hkeep⟩ := hfirst
      have hcons : ∀ l', ((a :: l').filterMap f).filter keep =
          b' :: (l'.filterMap f).filter keep := by
        intro l'
        rw [List.filterMap_cons_some hb', List.filter_cons_of_pos hkeep]
      rw [hcons] at h
      cases k with
      | zero =>
        obtain rfl := Option.some.inj h
        exact ⟨[], a, l, rfl, hb', hkeep, rfl⟩
      | succ k =>
        obtain ⟨l₁, a', l₂, rfl, ha', hkeep', hk⟩ := @ih k h
        refine ⟨a :: l₁, a', l₂, rfl, ha', hkeep', ?_⟩
        rw [hcons, List.length_cons, hk]
    · have hcons : ∀ l', ((a :: l').filterMap f).filter keep = (l'.filterMap f).filter keep := by
        intro l'
        cases hb' : f a with
        | none => rw [List.filterMap_cons_none hb']
        | some b' =>
          rw [List.filterMap_cons_some hb',
            List.filter_cons_of_neg fun hkeep => hfirst ⟨b', hb', hkeep⟩]
      rw [hcons] at h
      obtain ⟨l₁, a', l₂, rfl, ha', hkeep', hk⟩ := ih h
      refine ⟨a :: l₁, a', l₂, rfl, ha', hkeep', ?_⟩
      rw [hcons, hk]

/-- What leaves for a query is the answer to one of its questions. -/
theorem answers_answered {es : List (Event ι)} {m : ι} {i k : Nat} {questions : List Question}
    {r : Response}
    (h : ((after H sendable stores machines es).answers sendable m i questions)[k]? = some r) :
    ∃ q : Asking ι, q.earlier = es ∧ q.query = .query m i questions ∧
      Answered H sendable stores machines q
        ((after H sendable stores machines es).sent.length + k) r := by
  unfold Link.answers at h
  rw [interface_run] at h
  cases hi : (machines m).listeners[i]? with
  | none =>
    rw [hi] at h
    cases h
  | some mdns =>
    rw [hi] at h
    obtain ⟨before, question, behind, rfl, hgiven, hleft, rfl⟩ := filterMap_getElem? h
    exact ⟨⟨es, m, i, mdns, before, question, behind⟩, rfl, rfl, hi, hgiven, hleft, rfl⟩

/-- **What was sent is the answer to a question of the run.** -/
theorem sent_answered (es : List (Event ι)) {k : Nat} {r : Response}
    (h : (after H sendable stores machines es).sent[k]? = some r) :
    ∃ (q : Asking ι) (later : List (Event ι)), es = q.earlier ++ q.query :: later ∧
      Answered H sendable stores machines q k r := by
  induction es using List.reverseRecOn with
  | nil => cases h
  | append_singleton es e ih =>
    have hkeep : (after H sendable stores machines es).sent[k]? = some r →
        ∃ (q : Asking ι) (later : List (Event ι)), es ++ [e] = q.earlier ++ q.query :: later ∧
          Answered H sendable stores machines q k r := by
      intro hmem
      obtain ⟨q, later, rfl, hq⟩ := ih hmem
      exact ⟨q, later ++ [e], List.append_assoc .., hq⟩
    rw [after_snoc] at h
    cases e with
    | init m store => exact hkeep h
    | config m call => exact hkeep h
    | query m i questions =>
      change ((after H sendable stores machines es).sent ++ _)[k]? = some r at h
      rw [List.getElem?_append] at h
      split at h
      · exact hkeep h
      · obtain ⟨q, hes, hquery, hq⟩ := answers_answered h
        refine ⟨q, [], by rw [hes, hquery], ?_⟩
        rwa [Nat.add_sub_cancel' (by omega)] at hq
    | response m i k => exact hkeep h

/-- **Every line tells what the node that was asked was when it was asked**, in every run of nodes
    that are initialised and configured at any time and of packets that are late, come twice or are
    lost: the name of its last initialisation, the address of the interface that the question
    reached, and the port that it had. -/
theorem printed_truthful (es : List (Event ι)) {p : Nat} {n : ι} {line : String}
    (h : (after H sendable stores machines es).printed[p]? = some (n, line)) :
    Truthful H sendable stores machines es p n line := by
  induction es using List.reverseRecOn with
  | nil => cases h
  | append_singleton es e ih =>
    have hkeep : (after H sendable stores machines es).printed[p]? = some (n, line) →
        Truthful H sendable stores machines (es ++ [e]) p n line := by
      intro hmem
      obtain ⟨q, between, later, j, k, own, r, rfl, htruth⟩ := ih hmem
      exact ⟨q, between, later ++ [e], j, k, own, r, List.append_assoc .., htruth⟩
    rw [after_snoc] at h
    cases e with
    | init m store => exact hkeep h
    | config m call => exact hkeep h
    | query m i questions => exact hkeep h
    | response m j k =>
      change ((after H sendable stores machines es).printed ++ _)[p]? = some (n, line) at h
      rw [List.getElem?_append] at h
      split at h
      · exact hkeep h
      · -- the line that this arrival prints, the only one
        cases hline : (after H sendable stores machines es).line m j k with
        | none =>
          rw [hline] at h
          cases h
        | some line' =>
          rw [hline, Option.toList_some, List.map_singleton, List.getElem?_singleton] at h
          split at h
          · obtain ⟨rfl, rfl⟩ := Prod.mk.inj (Option.some.inj h)
            obtain ⟨own, hown, hresponse⟩ := Option.bind_eq_some_iff.mp hline
            obtain ⟨r, hr, hprinted⟩ := Option.bind_eq_some_iff.mp hresponse
            obtain ⟨q, between, rfl, hq⟩ := sent_answered es hr
            rw [interface_run] at hown
            exact ⟨q, between, [], j, k, own, r, rfl, by omega, hown, hq, hq.printed hprinted⟩
          · cases h

/-! ## 11. The shell's query -/

/-- What was sent stays, in its place. -/
theorem sent_grows (es fs : List (Event ι)) :
    (after H sendable stores machines es).sent <+:
      (after H sendable stores machines (es ++ fs)).sent := by
  induction fs using List.reverseRecOn with
  | nil => exact ⟨[], by rw [List.append_nil, List.append_nil]⟩
  | append_singleton fs e ih =>
    rw [← List.append_assoc, after_snoc]
    refine ih.trans ?_
    cases e with
    | init m store => exact List.prefix_rfl
    | config m call => exact List.prefix_rfl
    | query m i questions => exact List.prefix_append _ _
    | response m i k => exact List.prefix_rfl

/-- **What is sent for a query is printed as it was sent**, whatever happens until it arrives. -/
theorem line_answered {es fs : List (Event ι)} {n m : ι} {i j : Nat} {questions : List Question}
    {r : Response} {own : Mdns} (hn : (machines n).listeners[j]? = some own)
    (hsent : (after H sendable stores machines es).answers sendable m i questions = [r]) :
    (after H sendable stores machines (es ++ .query m i questions :: fs)).line n j
      (after H sendable stores machines es).sent.length = onResponse r own.iface := by
  obtain ⟨rest, hrest⟩ :=
    @sent_grows ι _ H sendable stores machines (es ++ [.query m i questions]) fs
  rw [after_snoc, List.append_assoc, List.singleton_append] at hrest
  have hget : (after H sendable stores machines (es ++ .query m i questions :: fs)).sent[
      (after H sendable stores machines es).sent.length]? = some r := by
    rw [← hrest]
    show ((after H sendable stores machines es).sent ++
      (after H sendable stores machines es).answers sendable m i questions ++ rest)[_]? = some r
    rw [hsent, List.append_assoc, List.getElem?_append_right (Nat.le_refl _), Nat.sub_self]
    rfl
  unfold Link.line
  rw [interface_run, hn, hget]
  rfl

/-- The answer to a query of the shell. -/
def browseAnswer (argv : MdnsArgs) (a : Node) (mdns : Mdns) : Option Response :=
  if argv.matterc then some (onCommissionableDiscovery a mdns.ip6Addr)
  else if argv.matterd then none
  else some (onOperationalDiscovery a mdns.ip6Addr)

/-- Of the three services of the shell, only one is asked for with the name of the operational. -/
theorem includes_operational (argv : MdnsArgs) :
    includes argv.serviceName MDNS_DOMAIN_OPERATIONAL = (!argv.matterc && !argv.matterd) := by
  unfold MdnsArgs.serviceName
  cases argv.matterc with
  | true =>
    show includes MDNS_DOMAIN_COMMISSIONABLE MDNS_DOMAIN_OPERATIONAL = false
    decide +kernel
  | false => cases argv.matterd <;> decide +kernel

theorem onQuery_doMdns {argv : MdnsArgs} {questions : List Question}
    (h : doMdns argv = some questions) (a : Node) (mdns : Mdns) :
    onQuery a mdns.ip6Addr questions = (browseAnswer argv a mdns).toList := by
  unfold doMdns at h
  split at h
  · cases h
  · obtain rfl := Option.some.inj h
    have hquestion : onQuestion a mdns.ip6Addr ⟨argv.serviceName, .PTR⟩ =
        browseAnswer argv a mdns := by
      have hincludes := includes_operational argv
      unfold onQuestion browseAnswer
      rw [if_pos (.inl rfl)]
      dsimp only
      rw [hincludes]
      unfold MdnsArgs.serviceName
      cases argv.matterc with
      | true => rfl
      | false =>
        cases argv.matterd with
        | true => exact if_neg (by decide)
        | false => rfl
    unfold onQuery
    rw [List.filterMap_cons, hquestion, List.filterMap_nil]
    cases browseAnswer argv a mdns <;> rfl

theorem answers_doMdns {argv : MdnsArgs} {questions : List Question}
    (h : doMdns argv = some questions) (es : List (Event ι)) {m : ι} {i : Nat} {mdns : Mdns}
    (hm : (machines m).listeners[i]? = some mdns) :
    (after H sendable stores machines es).answers sendable m i questions =
      (browseAnswer argv ((after H sendable stores machines es).nodes m)
        mdns).toList.filter sendable := by
  unfold Link.answers
  rw [interface_run, hm]
  exact congrArg (List.filter sendable) (onQuery_doMdns h _ mdns)

theorem after_query (es : List (Event ι)) (m : ι) (i : Nat) (questions : List Question) :
    let s := after H sendable stores machines es
    after H sendable stores machines (es ++ [.query m i questions]) =
      { s with sent := s.sent ++ s.answers sendable m i questions } :=
  after_snoc ..

/-- What the query brings about: the one answer leaves and nothing else changes, and when it arrives
    at an interface of a node, the line is printed there; what the package does not carry as it
    stands is left out. -/
def Brings (H : Host) (sendable : Response → Bool) (stores : ι → PersistantStore)
    (machines : ι → Machine) (es fs : List (Event ι)) (query : Event ι) (n : ι) (j : Nat)
    (r : Response) (line : String) : Prop :=
  let s := after H sendable stores machines es
  (sendable r = false → after H sendable stores machines (es ++ [query]) = s) ∧
  (sendable r = true →
    after H sendable stores machines (es ++ [query]) = { s with sent := s.sent ++ [r] } ∧
    (after H sendable stores machines
        (es ++ query :: fs ++ [.response n j s.sent.length])).printed =
      (after H sendable stores machines (es ++ query :: fs)).printed ++ [(n, line)])

theorem brings_of_answer {argv : MdnsArgs} {questions : List Question}
    (h : doMdns argv = some questions) (es fs : List (Event ι)) {n m : ι} {i j : Nat}
    {mdns own : Mdns} {r : Response} {line : String} (hm : (machines m).listeners[i]? = some mdns)
    (hn : (machines n).listeners[j]? = some own)
    (hr : browseAnswer argv ((after H sendable stores machines es).nodes m) mdns = some r)
    (hline : onResponse r own.iface = some line) :
    Brings H sendable stores machines es fs (.query m i questions) n j r line := by
  have hanswers := @answers_doMdns ι _ H sendable stores machines _ _ h es _ _ _ hm
  rw [hr, Option.toList_some] at hanswers
  refine ⟨?_, ?_⟩
  · intro hsend
    rw [List.filter_cons_of_neg (by rw [hsend]; decide), List.filter_nil] at hanswers
    rw [after_query, hanswers, List.append_nil]
  · intro hsend
    rw [List.filter_cons_of_pos hsend, List.filter_nil] at hanswers
    refine ⟨by rw [after_query, hanswers], ?_⟩
    rw [after_snoc]
    show _ ++ ((after H sendable stores machines (es ++ .query m i questions :: fs)).line n j
      _).toList.map (n, ·) = _
    rw [line_answered hn hanswers, hline]
    rfl

/-- **A query of `mdns` gets one answer, and the answer is printed as what the node was when it was
    asked**, whatever happens until it arrives. Nobody answers for a commissioner. -/
theorem browse_answered {argv : MdnsArgs} {questions : List Question}
    (h : doMdns argv = some questions) (es fs : List (Event ι)) {n m : ι} {i j : Nat}
    {mdns own : Mdns} (hm : (machines m).listeners[i]? = some mdns)
    (hn : (machines n).listeners[j]? = some own) :
    let s := after H sendable stores machines es
    let a := s.nodes m
    let query : Event ι := .query m i questions
    (argv.matterc = false → argv.matterd = true →
      after H sendable stores machines (es ++ [query]) = s) ∧
    (argv.matterc = true →
      Brings H sendable stores machines es fs query n j
        (onCommissionableDiscovery a mdns.ip6Addr) (commissionableLine a mdns own)) ∧
    (argv.matterc = false → argv.matterd = false →
      Brings H sendable stores machines es fs query n j
        (onOperationalDiscovery a mdns.ip6Addr)
        (operationalLine (lastTarget m es) a mdns own)) := by
  intro s a query
  refine ⟨?_, ?_, ?_⟩
  · intro hc hd
    have hnone : browseAnswer argv a mdns = none := by
      unfold browseAnswer
      rw [hc, hd]
      rfl
    rw [after_query, answers_doMdns h es hm, hnone, Option.toList_none, List.filter_nil,
      List.append_nil]
  · intro hc
    have hsome : browseAnswer argv a mdns = some (onCommissionableDiscovery a mdns.ip6Addr) := by
      unfold browseAnswer
      rw [hc]
      rfl
    exact brings_of_answer h es fs hm hn hsome (onResponse_commissionable a mdns own)
  · intro hc hd
    have htarget : a.discovery = ⟨lastTarget m es, (machines m).listeners⟩ := target_run es m
    have hsome : browseAnswer argv a mdns = some (onOperationalDiscovery a mdns.ip6Addr) := by
      unfold browseAnswer
      rw [hc, hd]
      rfl
    have hplain : IsTarget a.discovery.mdnsTarget := by
      rw [htarget]
      exact isTarget_run es m
    have hline := onResponse_operational hplain mdns own
    rw [htarget] at hline
    exact brings_of_answer h es fs hm hn hsome hline

end Run

end Link

/-! ## 12. Two nodes -/

/-- A store with a name and a port, and the interface of a host. -/
def sampleStore : PersistantStore where
  fabricid := some (.text "0000000000000000")
  nodeid := some (.text "00000000000000aa")
  ipPort := some (.number (.int 5541))
  storage := LocalStorage.empty
  process := { loggerLevel := "info", tracerLevel := .number (.int 0) }

def sampleMachine : Machine :=
  ⟨false, [("lo", [⟨.text "IPv6", "::1"⟩]),
    ("eth0", [⟨.text "IPv4", "10.0.0.1"⟩, ⟨.text "IPv6", "fe80::1"⟩])]⟩

def sampleInterface : Mdns := ⟨"::%eth0", some "fe80::1", true⟩

/-- The other node answers, and its port is changed before the answer arrives. -/
def sampleRun : List (Event Bool) :=
  [.init true sampleStore, .query true 0 [⟨MDNS_DOMAIN_OPERATIONAL, .PTR⟩],
    .config true (.ipPort (.text "5540")), .response false 0 0]

def sampleLine : String :=
  "mdns response: 0000000000000000-00000000000000aa._matter._tcp.local @ [fe80::1]:5541  " ++
    "::%eth0  service=matter"

theorem printed_truthful_stale :
    Truthful sampleHost (fun _ => true) (fun _ => sampleStore) (fun _ : Bool => sampleMachine)
      sampleRun 0 false sampleLine := by
  have h : (after sampleHost (fun _ => true) (fun _ => sampleStore)
      (fun _ : Bool => sampleMachine) sampleRun).printed[0]? = some (false, sampleLine) := by
    decide +kernel
  exact @printed_truthful Bool _ sampleHost (fun _ => true) (fun _ => sampleStore)
    (fun _ => sampleMachine) sampleRun 0 false sampleLine h

/-- The same from the side of the node that asked. -/
theorem browse_answered_stale :
    let es : List (Event Bool) := [.init true sampleStore]
    let a := (after sampleHost (fun _ => true) (fun _ => sampleStore) (fun _ => sampleMachine)
      es).nodes true
    Brings sampleHost (fun _ => true) (fun _ => sampleStore) (fun _ => sampleMachine) es
      [.config true (.ipPort (.text "5540"))] (.query true 0 [⟨MDNS_DOMAIN_OPERATIONAL, .PTR⟩])
      false 0 (onOperationalDiscovery a sampleInterface.ip6Addr)
      (operationalLine (lastTarget true es) a sampleInterface sampleInterface) := by
  have hlistener : sampleMachine.listeners[0]? = some sampleInterface := by decide +kernel
  have hquestions : doMdns {} = some [⟨MDNS_DOMAIN_OPERATIONAL, .PTR⟩] := rfl
  intro es a
  have h := @browse_answered Bool _ sampleHost (fun _ => true) (fun _ => sampleStore)
    (fun _ => sampleMachine) {} _ hquestions es [.config true (.ipPort (.text "5540"))] false true
    0 0 _ _ hlistener hlistener
  exact h.2.2 rfl rfl

end Matternode.Net
