import VelaFlow.Foundation.Machine
import VelaFlow.Planner.Scoring

/-!
# The board organizer of `organizer.py`

`reorganize_board` moves each task of a board to the section that suits it and labels the tasks that
have no label. A dry run reports the same without calling the client. The client is taken for its
board: a call moves or labels the task of its identifier, unless it fails.
-/
namespace VelaFlow.Planner

/-- `_LABEL_KEYWORDS`. -/
def labelKeywords : List (String × List String) :=
  [("Manutenção", ["arranjar", "reparar", "pintar", "limpar", "limpeza", "fixar", "trocar",
      "substituir", "instalar", "montar", "desmontar", "canalização", "silicone", "calafetagem",
      "porta", "janela", "cortina", "estore", "fechadura", "lampada", "lâmpada", "torneira",
      "chuveiro", "wc", "parede", "chão", "teto", "telhado", "calha"]),
    ("Tecnologia", ["pc", "computador", "servidor", "proxmox", "docker", "backup", "wifi",
      "router", "rede", "cable", "cabo", "nas", "raspberry", "pi", "smart", "automação",
      "home assistant", "n8n", "vpn", "ssh", "linux", "ubuntu", "debian", "plex", "app",
      "software", "setup", "config", "usb", "impressora", "printer"]),
    ("Finanças", ["banco", "seguro", "imposto", "irs", "factura", "fatura", "pagamento", "pagar",
      "transferir", "conta", "crédito", "hipoteca", "financiamento", "subscrição", "subscricao",
      "cancelar assinatura", "mensalidade", "anuidade"]),
    ("Burocracia", ["renovar", "documento", "certidão", "atestado", "procuração", "notário",
      "conservatória", "finanças", "registo", "carta", "condução", "cc", "passaporte", "nif",
      "niss", "segurança social", "formulário", "requerimento", "autoridade", "câmara", "junta"]),
    ("Saúde", ["médico", "consulta", "dentista", "exame", "análises", "vacina", "farmácia",
      "receita", "medicamento", "saúde", "hospital", "urgência", "fisioterapia",
      "dermatologista", "oftalmologista", "máscara"]),
    ("Lojas", ["comprar", "encomendar", "leroy", "ikea", "worten", "amazon", "ali express",
      "aliexpress", "olx", "loja", "supermercado", "lidl", "continente", "pingo", "auchan",
      "mercado", "fnac"]),
    ("Entretenimento", ["filme", "série", "jogo", "netflix", "spotify", "youtube", "livro",
      "ler", "podcast", "concerto", "espetáculo", "bilhete", "viagem", "férias", "passeio",
      "praia", "restaurante"]),
    ("decoração", ["decorar", "vaso", "planta", "quadro", "prateleira", "estante", "organizar",
      "arrumação", "móvel", "sofá", "mesa", "cadeira", "tapete", "almofada", "cortinado"]),
    ("Família", ["família", "mãe", "pai", "irmã", "irmão", "avó", "avô", "sobrinho", "primo",
      "casamento", "aniversário", "natal", "páscoa", "presente"])]

/-- A board of the client. Its tasks have different identifiers, and so have its sections. -/
structure Board where
  /-- The tasks. -/
  tasks : List Task
  /-- `get_section_map`, from identifiers to names. -/
  sectionMap : List (String × String)
  /-- The tasks are different. -/
  distinctTasks : (tasks.map Task.id).Nodup
  /-- The sections are different. -/
  distinctSections : (sectionMap.map Prod.fst).Nodup

/-- A call that changes the board. -/
inductive BoardCall where
  /-- `move_task`. -/
  | moveTask (taskId sectionId : String)
  /-- `update_task` of the labels. -/
  | updateLabels (taskId : String) (labels : List String)
  deriving DecidableEq

/-- `section_map.get(section_id, "?")`. -/
def sectionNameOf (sectionMap : List (String × String)) (sectionId : String) : String :=
  (sectionMap.lookup sectionId).getD "?"

/-- What a call does to a task. -/
def BoardCall.reflect (sectionMap : List (String × String)) (task : Task) : BoardCall → Task
  | .moveTask taskId sectionId =>
    if task.id = taskId then
      { task with sectionId, sectionName := .str (sectionNameOf sectionMap sectionId) }
    else task
  | .updateLabels taskId labels => if task.id = taskId then { task with labels } else task

/-- A call keeps the identifier of a task. -/
theorem reflect_id (sectionMap : List (String × String)) (task : Task) (call : BoardCall) :
    (call.reflect sectionMap task).id = task.id := by
  cases call with
  | moveTask taskId sectionId => rw [BoardCall.reflect]; split <;> rfl
  | updateLabels taskId labels => rw [BoardCall.reflect]; split <;> rfl

/-- Calls keep the identifiers of tasks. -/
theorem map_id_reflect (sectionMap : List (String × String)) (calls : List BoardCall)
    (tasks : List Task) :
    (tasks.map (calls.foldl (BoardCall.reflect sectionMap))).map Task.id = tasks.map Task.id := by
  rw [List.map_map]
  exact List.map_congr_left fun task _ => Machine.foldl_keeps (reflect_id sectionMap) calls task

/-- The board after calls. -/
def Board.carryOut (board : Board) (calls : List BoardCall) : Board where
  tasks := board.tasks.map (calls.foldl (BoardCall.reflect board.sectionMap))
  sectionMap := board.sectionMap
  distinctTasks := (map_id_reflect board.sectionMap calls board.tasks).symm ▸ board.distinctTasks
  distinctSections := board.distinctSections

/-- An entry of `moves`. -/
structure MoveInfo where
  /-- `task_id`. -/
  taskId : String
  /-- `content`. -/
  content : String
  /-- `from_section`. -/
  fromSection : Json
  /-- `to_section`. -/
  toSection : String
  /-- `to_section_id`. -/
  toSectionId : String

/-- An entry of `label_updates`. -/
structure LabelInfo where
  /-- `task_id`. -/
  taskId : String
  /-- `content`. -/
  content : String
  /-- `labels`. -/
  labels : List String

/-- `ReorganizeResult`. -/
structure ReorganizeResult where
  /-- `tasks_moved`. -/
  tasksMoved : Nat := 0
  /-- `tasks_labeled`. -/
  tasksLabeled : Nat := 0
  /-- `errors`. -/
  errors : List String := []
  /-- `moves`. -/
  moves : List MoveInfo := []
  /-- `label_updates`. -/
  labelUpdates : List LabelInfo := []

/-- Whether the name of a task's section is a text. -/
def isNamed (name : String) : Json → Bool
  | .str text => decide (text = name)
  | _ => false

section Suggestions

variable (lower : String → String) (today : Date)

/-- `infer_labels`. -/
def inferLabels (task : Task) : List String :=
  let text := lower (task.content ++ " " ++ task.description)
  (labelKeywords.filter fun entry => entry.2.any (mentions text)).map Prod.fst

/-- `_ideal_section_name`. -/
def idealSectionName (task : Task) : Option String :=
  if "blocked" ∈ task.labels then some "Blocked"
  else if task.isRecurring then some "Ongoing recurring"
  else if isNamed "Daily Planner" task.sectionName || isNamed "Weekly Planner" task.sectionName ||
      isNamed "Weekend Planner" task.sectionName then none
  else
    let daysUntil := task.dueDate.map fun due => due.ordinal - today.ordinal
    if daysUntil.any (fun days => decide (days ≤ 0)) then some "To Do - Urgent/Today"
    else if daysUntil.any (fun days => decide (days ≤ 2)) && decide (3 ≤ task.priority) then
      some "To Do - Urgent/Today"
    else if task.priority = 4 then some "To Do - Urgent/Today"
    else if task.priority = 3 then some "To Do - High"
    else if task.priority = 2 then some "To Do - Normal"
    else if task.priority = 1 then
      if task.dueDate.isSome then some "To Do - Low" else some "Backlog"
    else none

/-- `suggest_section`. -/
def suggestSection (task : Task) (sectionMap : List (String × String)) : Option String :=
  match idealSectionName today task with
  | none => none
  | some target =>
    if isNamed target task.sectionName then none
    else (sectionMap.find? fun entry => decide (entry.2 = target)).map Prod.fst

/-- The section that the loop moves a task to. -/
def moveTarget (task : Task) (sectionMap : List (String × String)) : Option String :=
  (suggestSection today task sectionMap).filter fun sectionId =>
    decide (sectionId ≠ "") && decide (sectionId ≠ task.sectionId)

end Suggestions

/-- The arguments of `reorganize_board`. -/
structure Reorganization where
  /-- `dry_run`. -/
  dryRun : Bool := true
  /-- `move_tasks`. -/
  moveTasks : Bool := true
  /-- `auto_label`. -/
  autoLabel : Bool := true

/-- A result and the calls that were made for it. -/
structure Organizing where
  /-- The result. -/
  result : ReorganizeResult := {}
  /-- The calls that the client has carried out. -/
  calls : List BoardCall := []

section Reorganize

variable (lower : String → String) (fails : BoardCall → Option String) (today : Date)

/-- A call of the client, unless it fails. -/
def Organizing.attempt (organizing : Organizing) (call : BoardCall)
    (count : ReorganizeResult → ReorganizeResult) (failure : String) : Organizing :=
  match fails call with
  | none => { result := count organizing.result, calls := organizing.calls ++ [call] }
  | some exception => { organizing with result :=
      { organizing.result with errors := organizing.result.errors ++ [failure ++ exception] } }

/-- The part of the loop that moves a task. -/
def organizeSection (reorganization : Reorganization) (sectionMap : List (String × String))
    (organizing : Organizing) (task : Task) : Organizing :=
  match if reorganization.moveTasks then moveTarget today task sectionMap else none with
  | none => organizing
  | some sectionId =>
    let reported := { organizing with result := { organizing.result with
      moves := organizing.result.moves ++ [{
        taskId := task.id, content := task.content, fromSection := task.sectionName,
        toSection := sectionNameOf sectionMap sectionId, toSectionId := sectionId }] } }
    if reorganization.dryRun then reported
    else reported.attempt fails (.moveTask task.id sectionId)
      (fun result => { result with tasksMoved := result.tasksMoved + 1 })
      ("Failed to move '" ++ task.content ++ "': ")

/-- The part of the loop that labels a task. -/
def organizeLabels (reorganization : Reorganization) (organizing : Organizing) (task : Task) :
    Organizing :=
  let suggestions := inferLabels lower task
  if reorganization.autoLabel = true ∧ task.labels = [] ∧ suggestions ≠ [] then
    let reported := { organizing with result := { organizing.result with
      labelUpdates := organizing.result.labelUpdates ++ [{
        taskId := task.id, content := task.content, labels := suggestions }] } }
    if reorganization.dryRun then reported
    else reported.attempt fails (.updateLabels task.id suggestions)
      (fun result => { result with tasksLabeled := result.tasksLabeled + 1 })
      ("Failed to label '" ++ task.content ++ "': ")
  else organizing

/-- What the loop does with a task. -/
def organizeTask (reorganization : Reorganization) (sectionMap : List (String × String))
    (organizing : Organizing) (task : Task) : Organizing :=
  organizeLabels lower fails reorganization
    (organizeSection fails today reorganization sectionMap organizing task) task

/-- `reorganize_board` of the project with an identifier, with the calls that the client has carried
out. -/
def reorganizeBoard (reorganization : Reorganization) (projectId : String) (board : Board) :
    Organizing :=
  if projectId = "" then { result := { errors := ["TODOIST_KANBAN_PROJECT_ID not set."] } }
  else
    let organized := board.tasks.foldl
      (organizeTask lower fails today reorganization board.sectionMap) {}
    if reorganization.dryRun then { organized with result := { organized.result with
      tasksMoved := organized.result.moves.length,
      tasksLabeled := organized.result.labelUpdates.length } }
    else organized

end Reorganize

end VelaFlow.Planner
