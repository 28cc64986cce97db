import Mathlib
import Stencil.Proofs.Data.Value
import Stencil.Proofs.Gitlab.Requests

/-!
# Pages

A list is read page by page: the first one is asked for by its number, and each of the others by what the one
before it announces.  What is read are the items of all pages, in their order.
-/

namespace Stencil.Gitlab

open Data (Value)
open Http (Request Response)

/-- A page of a list: a response and the data in it. -/
structure Page where
  /-- The response. -/
  response : Response
  /-- The data. -/
  data : Value

/-- The items on some pages. -/
def Page.items (pages : List Page) : List Value :=
  pages.flatMap fun page => Client.pageItems page.data

/-- What some pages are asked for by: the first one by a given number, the others by what is announced. -/
def Page.numbers (number : String) (pages : List Page) : List String :=
  number :: pages.filterMap fun page => Client.nextPage? page.response

namespace Client

variable {σ : Type}

/-- The request for one page of a list. -/
def pageRequest (client : Client σ) (path : String) (parameters : List (String × Value)) (number : String) :
    Request :=
  client.request .get path (some (pageParameters parameters number)) none

/-- A network sends a page as a success that is data. -/
structure Sends (client : Client σ) (path : String) (parameters : List (String × Value)) (network : σ)
    (number : String) (page : Page) (network' : σ) : Prop where
  /-- The response is that of the page. -/
  response : client.transport (client.pageRequest path parameters number) network = (.ok page.response, network')
  /-- It is a success. -/
  success : page.response.isFailure = false
  /-- It is read as data. -/
  data : Data.Json.read page.response.text = .ok page.data

/-- A network sends the pages of a list from one on; each of them announces the next one, but for the last. -/
inductive Serves (client : Client σ) (path : String) (parameters : List (String × Value)) :
    σ → String → List Page → σ → Prop
  /-- The last page announces no other. -/
  | last {network network' : σ} {number : String} {page : Page}
    (sends : client.Sends path parameters network number page network')
    (ends : nextPage? page.response = none) : Serves client path parameters network number [page] network'
  /-- A page announces the next one. -/
  | more {network network' network'' : σ} {number next : String} {page : Page} {pages : List Page}
    (sends : client.Sends path parameters network number page network')
    (announces : nextPage? page.response = some next)
    (rest : Serves client path parameters network' next pages network'') :
    Serves client path parameters network number (page :: pages) network''

/-- A network sends the pages of a whole list, and they are not more than are read. -/
structure Lists (client : Client σ) (path : String) (parameters : List (String × Value)) (network : σ)
    (pages : List Page) (network' : σ) : Prop where
  /-- The pages are sent from the first one on. -/
  serves : client.Serves path parameters network "1" pages network'
  /-- They are not too many. -/
  few : pages.length ≤ client.mostPages

/-- The requests for the pages of a whole list. -/
def pageRequests (client : Client σ) (path : String) (parameters : List (String × Value)) (pages : List Page) :
    List Request :=
  (Page.numbers "1" pages).map (client.pageRequest path parameters)

/-! ## Reading pages -/

section Reading

variable {client : Client σ} {path : String} {parameters : List (String × Value)} {network' : σ}
  {number : String} {most : Nat} {session : Session σ}

theorem run_send_page {response : Response}
    (answers : client.transport (client.pageRequest path parameters number) session.network =
      (.ok response, network')) (success : response.isFailure = false) :
    (client.send .get path (some (pageParameters parameters number)) none).run session =
      (.ok response, session.sent [client.pageRequest path parameters number] network') := by
  rw [run_send]
  rw [pageRequest] at answers
  rw [answers, settle, success]
  rfl

theorem run_readData_of_ok {response : Response} {v : Value} (read : Data.Json.read response.text = .ok v) :
    (readData response : Exchange σ Value).run session = (.ok v, session) := by
  rw [readData, read]
  rfl

/-- A page that is sent is read, and then the rest. -/
theorem run_listFrom_succ {page : Page}
    (sends : client.Sends path parameters session.network number page network') :
    (client.listFrom path parameters (most + 1) number).run session =
      match nextPage? page.response with
      | none =>
        (.ok (pageItems page.data), session.sent [client.pageRequest path parameters number] network')
      | some next =>
        match (client.listFrom path parameters most next).run
            (session.sent [client.pageRequest path parameters number] network') with
        | (.ok items, after) => (.ok (pageItems page.data ++ items), after)
        | (.error fault, after) => (.error fault, after) := by
  rw [listFrom, run_bind, run_send_page sends.response sends.success]
  simp only
  rw [run_bind, run_readData_of_ok sends.data]
  simp only
  cases nextPage? page.response with
  | none => rfl
  | some next =>
      simp only
      rw [run_bind]
      rcases (client.listFrom path parameters most next).run _ with ⟨_ | items, after⟩
      · rfl
      · rfl

theorem run_listFrom {pages : List Page}
    (serves : client.Serves path parameters session.network number pages network') (few : pages.length ≤ most) :
    (client.listFrom path parameters most number).run session = (.ok (Page.items pages),
      session.sent ((Page.numbers number pages).map (client.pageRequest path parameters)) network') := by
  generalize start : session.network = network at serves
  -- The induction is on the pages that are sent; the session and the bound follow them.
  induction serves generalizing session most with
  | last sends ends =>
      subst start
      obtain ⟨most, rfl⟩ := Nat.exists_eq_add_of_le' few
      rw [List.length_singleton, run_listFrom_succ sends, ends]
      simp [Page.items, Page.numbers, ends]
  | more sends announces rest induction =>
      subst start
      obtain ⟨most, rfl⟩ := Nat.exists_eq_add_of_le' (Nat.one_le_of_lt few)
      rw [run_listFrom_succ sends, announces]
      simp only
      rw [induction (Nat.le_of_succ_le_succ few) (Session.sent_network session _ _)]
      simp [Page.items, Page.numbers, announces, Session.sent_sent]

/-- A whole list is read: its items come in the order of the pages, each of which is asked for once. -/
theorem run_list {network : σ} {pages : List Page} (start : session.network = network)
    (lists : client.Lists path parameters network pages network') :
    (client.list path parameters).run session =
      (.ok (Page.items pages), session.sent (client.pageRequests path parameters pages) network') :=
  run_listFrom (start ▸ lists.serves) lists.few

/-! ## Groups -/

/-- Whether a value is a group of a full path. -/
def isGroup (group : String) (v : Value) : Bool :=
  match v.get? "full_path" with
  | some (.text path) => path = group
  | _ => false

/-- Whether the search for a group ends with a value: it is the group, or it is no mapping. -/
def endsSearch (group : String) (v : Value) : Bool :=
  match v with
  | .mapping _ => isGroup group v
  | _ => true

/-- The number that a value has, which ends the search for a group. -/
def numberOf : Value → Except Fault Value
  | .mapping entries =>
    match Value.find? "id" entries with
    | some number => .ok number
    | none => .error (.missing "id")
  | v => .error (.noFields v)

theorem isGroup_iff {group : String} {v : Value} :
    isGroup group v = true ↔ v.get? "full_path" = some (.text group) := by
  rw [isGroup]
  split
  · rename_i path same
    simp [same]
  · rename_i other
    exact iff_of_false Bool.false_ne_true (other group)

theorem run_findGroup_of_ends {group : String} {v : Value} (ends : endsSearch group v = true)
    (rest : List Value) : (findGroup group (v :: rest) : Exchange σ Value).run session = (numberOf v, session) := by
  cases v with
  | mapping entries =>
      have path : Value.find? "full_path" entries = some (.text group) := isGroup_iff.mp ends
      rw [findGroup, field, run_bind, path]
      simp only [run_pure, if_true]
      rw [item, numberOf]
      cases Value.find? "id" entries with
      | none => rfl
      | some number => rfl
  | _ => rfl

theorem run_findGroup_of_passes {group : String} {v : Value} (passes : endsSearch group v = false)
    (rest : List Value) :
    (findGroup group (v :: rest) : Exchange σ Value).run session = (findGroup group rest).run session := by
  cases v with
  | mapping entries =>
      have path : Value.find? "full_path" entries ≠ some (.text group) := fun path =>
        Bool.false_ne_true (passes.symm.trans (isGroup_iff.mpr path))
      rw [findGroup, field, run_bind, run_pure]
      simp only
      split
      · rename_i other same
        rw [if_neg]
        rintro rfl
        exact path same
      · rfl
  | _ => cases passes

/-- The search for a group is decided by the first value that ends it. -/
theorem run_findGroup (group : String) (items : List Value) :
    (findGroup group items : Exchange σ Value).run session =
      (match items.find? (endsSearch group) with
        | none => .error (.refused ("group " ++ group ++ " not found") none)
        | some v => numberOf v, session) := by
  induction items with
  | nil => rfl
  | cons v rest induction =>
      cases ends : endsSearch group v with
      | true =>
          rw [List.find?_cons_of_pos ends]
          exact run_findGroup_of_ends ends rest
      | false =>
          rw [List.find?_cons_of_neg (by simp [ends]), ← induction]
          exact run_findGroup_of_passes ends rest

/-- The candidates for a group. -/
def groupParameters (group : String) : List (String × Value) :=
  [("search", .text (lastName group))]

theorem run_groupNumber {group : String} {network : σ} {pages : List Page} (start : session.network = network)
    (lists : client.Lists "/groups" (groupParameters group) network pages network') :
    (client.groupNumber group).run session =
      (match (Page.items pages).find? (endsSearch group) with
        | none => .error (.refused ("group " ++ group ++ " not found") none)
        | some v => numberOf v,
        session.sent (client.pageRequests "/groups" (groupParameters group) pages) network') := by
  rw [groupNumber, run_bind]
  have read := run_list start lists
  rw [groupParameters] at read ⊢
  rw [read]
  exact run_findGroup group (Page.items pages)

/-! ## Projects -/

/-- Whether a value has a name that can be a key. -/
def IsProject (v : Value) : Prop :=
  ∃ name, v.get? "name" = some name ∧ name.isKey = true

/-- The name of a project and its description, which is empty unless it is given. -/
def projectEntry (v : Value) : Value × Value :=
  ((v.get? "name").getD .null, ((v.get? "description").filter (·.isGiven)).getD (.text ""))

theorem run_gatherProjects_cons {v : Value} (isProject : IsProject v) (known : List (Value × Value))
    (rest : List Value) :
    (gatherProjects known (v :: rest) : Exchange σ (List (Value × Value))).run session =
      (gatherProjects (Value.insertEntry (projectEntry v).1 (projectEntry v).2 known) rest).run session := by
  obtain ⟨name, named, isKey⟩ := isProject
  cases v with
  | mapping entries =>
      have found : Value.find? "name" entries = some name := named
      have described : (Value.mapping entries).get? "description" = Value.find? "description" entries := rfl
      rw [gatherProjects, item, found, run_bind, run_pure]
      simp only
      rw [field, run_bind, run_pure]
      simp only [isKey, if_true]
      rw [projectEntry, named, described, Option.getD_some]
  | _ => cases named

/-- Projects are gathered by their names. -/
theorem run_gatherProjects {projects : List Value} (areProjects : ∀ v ∈ projects, IsProject v)
    (known : List (Value × Value)) :
    (gatherProjects known projects : Exchange σ (List (Value × Value))).run session =
      (.ok ((projects.map projectEntry).foldl (fun known entry => Value.insertEntry entry.1 entry.2 known) known),
        session) := by
  induction projects generalizing known with
  | nil => rfl
  | cons v rest induction =>
      obtain ⟨isProject, others⟩ := List.forall_mem_cons.mp areProjects
      rw [run_gatherProjects_cons isProject, induction others, List.map_cons, List.foldl_cons]

/-- The path of the projects of a group. -/
def projectsPath (number : Value) : String :=
  "/groups/" ++ number.display ++ "/projects"

/-- The projects directly in a group. -/
def projectsParameters : List (String × Value) :=
  [("include_subgroups", .text "false")]

theorem run_listProjects {group : String} {network network'' : σ} {groups projects : List Page} {found number : Value}
    (start : session.network = network)
    (lists : client.Lists "/groups" (groupParameters group) network groups network')
    (first : (Page.items groups).find? (endsSearch group) = some found) (numbered : numberOf found = .ok number)
    (lists' : client.Lists (projectsPath number) projectsParameters network' projects network'') :
    (client.listProjects group).run session =
      (gatherProjects [] (Page.items projects)).run (session.sent
        (client.pageRequests "/groups" (groupParameters group) groups ++
          client.pageRequests (projectsPath number) projectsParameters projects) network'') := by
  rw [listProjects, run_bind, run_groupNumber start lists, first]
  simp only
  rw [numbered]
  simp only
  have read := run_list (Session.sent_network session
    (client.pageRequests "/groups" (groupParameters group) groups) network') lists'
  rw [Session.sent_sent] at read
  rw [projectsPath, projectsParameters] at read ⊢
  rw [run_bind, read]

end Reading

/-! ## Lists -/

/-- Whether a value has the fields by which a group is found. -/
def IsCandidate (v : Value) : Prop :=
  (v.get? "full_path").isSome = true ∧ (v.get? "id").isSome = true

theorem endsSearch_of_isCandidate {v : Value} (isCandidate : IsCandidate v) (group : String) :
    endsSearch group v = isGroup group v := by
  cases v with
  | mapping entries => rfl
  | _ => cases isCandidate.1

theorem find?_endsSearch {items : List Value} (areCandidates : ∀ v ∈ items, IsCandidate v) (group : String) :
    items.find? (endsSearch group) = items.find? (isGroup group) := by
  induction items with
  | nil => rfl
  | cons v rest induction =>
      obtain ⟨isCandidate, others⟩ := List.forall_mem_cons.mp areCandidates
      rw [List.find?_cons, List.find?_cons, endsSearch_of_isCandidate isCandidate, induction others]

theorem numberOf_of_get? {v number : Value} (numbered : v.get? "id" = some number) : numberOf v = .ok number := by
  cases v with
  | mapping entries =>
      have found : Value.find? "id" entries = some number := numbered
      rw [numberOf, found]
  | _ => cases numbered

theorem length_numbers {client : Client σ} {path : String} {parameters : List (String × Value)}
    {network network' : σ} {number : String} {pages : List Page}
    (serves : client.Serves path parameters network number pages network') :
    (Page.numbers number pages).length = pages.length := by
  induction serves with
  | last sends ends => simp [Page.numbers, ends]
  | more sends announces rest induction =>
      simpa [Page.numbers, announces] using induction

/-- Lists lose and repeat nothing, however they are split into pages: there is one request for each page, and the
items come in the order of the pages.  The number of a group is that of the first candidate with its full path, and
the projects of a group are held by their names, with the descriptions that come last. -/
theorem lists_complete (client : Client σ) (session : Session σ) :
    (∀ path parameters pages network, client.Lists path parameters session.network pages network →
      (client.list path parameters).run session =
          (.ok (Page.items pages), session.sent (client.pageRequests path parameters pages) network) ∧
        (client.pageRequests path parameters pages).length = pages.length) ∧
    (∀ group pages network, client.Lists "/groups" (groupParameters group) session.network pages network →
      (∀ v ∈ Page.items pages, IsCandidate v) →
      (∀ found number, (Page.items pages).find? (isGroup group) = some found → found.get? "id" = some number →
        (client.groupNumber group).run session =
          (.ok number, session.sent (client.pageRequests "/groups" (groupParameters group) pages) network)) ∧
      ((∀ v ∈ Page.items pages, isGroup group v = false) →
        (client.groupNumber group).run session =
          (.error (.refused ("group " ++ group ++ " not found") none),
            session.sent (client.pageRequests "/groups" (groupParameters group) pages) network))) ∧
    ∀ group groups network found number projects network',
      client.Lists "/groups" (groupParameters group) session.network groups network →
      (∀ v ∈ Page.items groups, IsCandidate v) →
      (Page.items groups).find? (isGroup group) = some found → found.get? "id" = some number →
      client.Lists (projectsPath number) projectsParameters network projects network' →
      (∀ v ∈ Page.items projects, IsProject v) →
      ∃ known, (client.listProjects group).run session =
          (.ok known, session.sent (client.pageRequests "/groups" (groupParameters group) groups ++
            client.pageRequests (projectsPath number) projectsParameters projects) network') ∧
        Value.Gathers ((Page.items projects).map projectEntry) known := by
  refine ⟨?_, ?_, ?_⟩
  · intro path parameters pages network lists
    refine ⟨run_list rfl lists, ?_⟩
    rw [pageRequests, List.length_map, length_numbers lists.serves]
  · intro group pages network lists areCandidates
    have decided := run_groupNumber rfl lists
    rw [find?_endsSearch areCandidates] at decided
    refine ⟨fun found number first numbered => ?_, fun absent => ?_⟩
    · rw [decided, first]
      simp only
      rw [numberOf_of_get? numbered]
    · rw [decided, List.find?_eq_none.mpr fun v known => by simp [absent v known]]
  · intro group groups network found number projects network' lists areCandidates first numbered lists' areProjects
    rw [← find?_endsSearch areCandidates] at first
    refine ⟨_, (run_listProjects rfl lists first (numberOf_of_get? numbered) lists').trans
      (run_gatherProjects areProjects []), ?_⟩
    exact Value.gathers_gather _

/-- A network that sends some responses one after the other. -/
def queue : Http.Transport (List Response) Fault := fun _ responses =>
  match responses with
  | [] => (.error (.unreachable "closed"), [])
  | response :: rest => (.ok response, rest)

/-- A page of a text that announces another one, or none where that is empty. -/
def pageOf (announced text : String) (data : Value) : Page :=
  ⟨{ headers := [("X-Next-Page", announced)], body := Text.Utf8.encode text.toList }, data⟩

/-- A group on a second page, with a project that comes on two pages. -/
theorem lists_complete_second_page :
    ∃ (client : Client (List Response)) (session : Session (List Response)) (groups projects : List Page)
      (network : List Response) (found : Value) (known : List (Value × Value)),
      client.Lists "/groups" (groupParameters "g") session.network groups network ∧
      (∀ v ∈ Page.items groups, IsCandidate v) ∧
      (Page.items groups).find? (isGroup "g") = some found ∧ found.get? "id" = some (.int 2) ∧
      client.Lists (projectsPath (.int 2)) projectsParameters network projects [] ∧
      (∀ v ∈ Page.items projects, IsProject v) ∧
      (client.pageRequests "/groups" (groupParameters "g") groups).length = groups.length ∧
      (client.groupNumber "g").run session =
        (.ok (.int 2), session.sent (client.pageRequests "/groups" (groupParameters "g") groups) network) ∧
      (client.listProjects "g").run session =
        (.ok known, session.sent (client.pageRequests "/groups" (groupParameters "g") groups ++
          client.pageRequests (projectsPath (.int 2)) projectsParameters projects) []) ∧
      Value.Gathers ((Page.items projects).map projectEntry) known := by
  let other : Value := .mapping [(.text "id", .int 1), (.text "full_path", .text "a/g")]
  let group : Value := .mapping [(.text "id", .int 2), (.text "full_path", .text "g")]
  let first : Value := .mapping [(.text "name", .text "p"), (.text "description", .text "x")]
  let second : Value := .mapping [(.text "name", .text "p")]
  let page₁ := pageOf "2" "[\x7b\"id\":1,\"full_path\":\"a/g\"\x7d]" (.list [other])
  let page₂ := pageOf "" "[\x7b\"id\":2,\"full_path\":\"g\"\x7d]" (.list [group])
  let page₃ := pageOf "2" "[\x7b\"name\":\"p\",\"description\":\"x\"\x7d]" (.list [first])
  let page₄ := pageOf "" "[\x7b\"name\":\"p\"\x7d]" (.list [second])
  let client : Client (List Response) := { token := "t", address := "/api", transport := queue }
  let session : Session (List Response) :=
    ⟨[page₁.response, page₂.response, page₃.response, page₄.response], [], [], []⟩
  have read₁ : Data.Json.read page₁.response.text = .ok page₁.data := by cbv
  have read₂ : Data.Json.read page₂.response.text = .ok page₂.data := by cbv
  have read₃ : Data.Json.read page₃.response.text = .ok page₃.data := by cbv
  have read₄ : Data.Json.read page₄.response.text = .ok page₄.data := by cbv
  have groups : client.Lists "/groups" (groupParameters "g") session.network [page₁, page₂]
      [page₃.response, page₄.response] :=
    ⟨.more ⟨rfl, rfl, read₁⟩ (by cbv) (.last ⟨rfl, rfl, read₂⟩ (by cbv)), by decide⟩
  have projects : client.Lists (projectsPath (.int 2)) projectsParameters
      [page₃.response, page₄.response] [page₃, page₄] [] :=
    ⟨.more ⟨rfl, rfl, read₃⟩ (by cbv) (.last ⟨rfl, rfl, read₄⟩ (by cbv)), by decide⟩
  have areCandidates : ∀ v ∈ Page.items [page₁, page₂], IsCandidate v := by
    change ∀ v ∈ [other, group], IsCandidate v
    simp [other, group, IsCandidate, Value.get?, Value.find?]
  have areProjects : ∀ v ∈ Page.items [page₃, page₄], IsProject v := by
    change ∀ v ∈ [first, second], IsProject v
    simp [first, second, IsProject, Value.get?, Value.find?, Value.isKey]
  have chosen : (Page.items [page₁, page₂]).find? (isGroup "g") = some group := by cbv
  obtain ⟨lists, numbers, gathered⟩ := lists_complete client session
  obtain ⟨known, listed, gathers⟩ :=
    gathered "g" _ _ group (.int 2) _ _ groups areCandidates chosen rfl projects areProjects
  exact ⟨client, session, _, _, _, group, known, groups, areCandidates, chosen, rfl, projects, areProjects,
    (lists _ _ _ _ groups).2, (numbers "g" _ _ groups areCandidates).1 group _ chosen rfl, listed, gathers⟩

end Client

end Stencil.Gitlab
