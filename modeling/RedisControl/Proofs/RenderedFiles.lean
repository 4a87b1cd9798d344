import RedisControl.Proofs.OwnedObjects

/-!
# What the files of an instance name

The files in the config maps name other files: a script starts the server with its configuration,
the configuration names certificates. Such a name is the word after an option. The templates of
this library see two facts about an instance only, so what they name after an option is known for
every instance.

* `Text.valuesOf` : the values that a text gives to an option.
* `Redis.exists_render` : the templates that name files render, and name these files.
* `Redis.configData_scripts` : the scripts are there.
-/

namespace RedisControl

/-! ## Options in a text -/

namespace Text

/-- The words of a line: what stands between blanks. -/
def words (line : List Char) : List (List Char) :=
  (line.splitBy fun a b => isBlank a == isBlank b).filter fun word => !word.any isBlank

def lines (text : List Char) : List (List Char) := text.splitBy fun a _ => a != '\n'

/-- The words that stand right after a word. -/
def after (word : List Char) : List (List Char) → List (List Char)
  | a :: b :: rest => if a = word then b :: after word (b :: rest) else after word (b :: rest)
  | _ => []

def valuesIn (option text : List Char) : List (List Char) :=
  (lines text).flatMap fun line => after option (words line)

/-- The values that a text gives to an option: the words right after it, each in the same line. -/
def valuesOf (option text : String) : List String :=
  (valuesIn option.toList text.toList).map String.ofList

theorem valuesOf_of_valuesIn {option text : String} {values : List String}
    (h : valuesIn option.toList text.toList = values.map String.toList) :
    valuesOf option text = values := by
  rw [valuesOf, h, List.map_map]
  exact List.map_id'' (fun _ => String.ofList_toList) values

example : valuesOf "--cacert" "exec redis-cli --tls --cacert /ca.crt ping\n" = ["/ca.crt"] := by
  decide +kernel

end Text

/-- The file that a config map holds under a key. -/
def SubResource.file? (o : SubResource) (key : String) : Option String :=
  match o.body with
  | .configMap data => data.bind (·.get? key)
  | _ => none

/-! ## The files of an instance -/

namespace Redis

variable (r : Redis)

/-- The script that starts the server. -/
def startText : String := (Template.render startScript r.parameters).toOption.getD ""

/-- The script that asks the server whether it is ready. -/
def readinessText : String := (Template.render readinessScript r.parameters).toOption.getD ""

/-- A file that a secure server needs; without transport security there is none. -/
def ifSecure (path : String) : List String := if r.spec.tls.enabled then [path] else []

/-- The options of the configuration of the server that name files. -/
def serverOptions : List (String × List String) :=
  [("tls-cert-file", r.ifSecure (MountPath.certificate ++ "/" ++ TlsKey.certificate)),
   ("tls-key-file", r.ifSecure (MountPath.certificate ++ "/" ++ TlsKey.privateKey)),
   ("tls-ca-cert-file", r.ifSecure r.caFile)]

/-- The templates that name files: the options after which they do, and what they name. -/
def namingTemplates : List (String × List (String × List String)) :=
  [(serverConfig, r.serverOptions),
   (startScript, [("redis-server", [MountPath.config ++ "/redis.conf"])]),
   (readinessScript, [("--cacert", r.ifSecure r.caFile)])]

/-- These templates render, and name these files. -/
theorem exists_render {source : String} {options : List (String × List String)}
    (h : (source, options) ∈ r.namingTemplates) :
    ∃ text, Template.render source r.parameters = .ok text ∧
      ∀ e ∈ options, Text.valuesOf e.1 text = e.2 := by
  have hpasses : r.namingTemplates.all (fun e =>
      (Template.passes r.parameters Template.maxPasses e.1.toList).toOption.any fun text =>
        e.2.all fun e => Text.valuesIn e.1.toList text == e.2.map String.toList) = true := by
    unfold namingTemplates serverOptions ifSecure parameters caFile
    generalize r.spec.tls.enabled = secure
    generalize r.spec.tls.caBundle?.isSome = bundle
    revert secure bundle
    decide +kernel
  obtain ⟨text, hrender, hvalues⟩ := exists_render_of_passes (List.all_eq_true.1 hpasses _ h)
  refine ⟨text, hrender, ?_⟩
  intro e he
  exact Text.valuesOf_of_valuesIn (eq_of_beq (List.all_eq_true.1 hvalues e he))

/-- The values that the configuration of the server gives to its options. -/
theorem valuesOf_serverText {option : String} {values : List String}
    (h : (option, values) ∈ r.serverOptions) : Text.valuesOf option r.serverText = values := by
  obtain ⟨text, hrender, hvalues⟩ := r.exists_render List.mem_cons_self
  rw [serverText, hrender]
  exact hvalues (option, values) h

theorem render_startScript : Template.render startScript r.parameters = .ok r.startText ∧
    Text.valuesOf "redis-server" r.startText = [MountPath.config ++ "/redis.conf"] := by
  obtain ⟨text, hrender, hvalues⟩ :=
    r.exists_render (List.mem_cons_of_mem _ List.mem_cons_self)
  have hvalue := hvalues _ List.mem_cons_self
  rw [startText, hrender]
  exact ⟨rfl, hvalue⟩

theorem render_readinessScript :
    Template.render readinessScript r.parameters = .ok r.readinessText ∧
      Text.valuesOf "--cacert" r.readinessText = r.ifSecure r.caFile := by
  obtain ⟨text, hrender, hvalues⟩ :=
    r.exists_render (List.mem_cons_of_mem _ (List.mem_cons_of_mem _ List.mem_cons_self))
  have hvalue := hvalues _ List.mem_cons_self
  rw [readinessText, hrender]
  exact ⟨rfl, hvalue⟩

theorem configData_scripts (name : String) : r.configData ⟨name, .scripts, .empty⟩ =
    .ok ((StringMap.empty.insert "start.sh" r.startText).insert
      "readiness.sh" r.readinessText) := by
  rw [configData, ConfigRole.sources, renderFiles, r.render_startScript.1]
  show Except.map _ (renderFiles r.parameters [("readiness.sh", readinessScript)] _) = _
  rw [renderFiles, r.render_readinessScript.1]
  rfl

end Redis

/-! ## The files in the config maps -/

namespace Owned

variable {r : Redis} (w : Owned r)

theorem file?_start : w.scripts.file? "start.sh" = some r.startText := by
  have hdata := Except.ok.inj (w.scriptsData_eq.symm.trans (r.configData_scripts _))
  show w.scriptsData.get? "start.sh" = _
  rw [hdata, StringMap.get?_insert, if_neg (by decide), StringMap.get?_insert, if_pos rfl]

theorem file?_readiness : w.scripts.file? "readiness.sh" = some r.readinessText := by
  have hdata := Except.ok.inj (w.scriptsData_eq.symm.trans (r.configData_scripts _))
  show w.scriptsData.get? "readiness.sh" = _
  rw [hdata, StringMap.get?_insert, if_pos rfl]

theorem file?_config :
    w.config.file? "redis.conf" = some (r.serverText ++ r.spec.customConfig.getD "") := by
  have hdata := Except.ok.inj (w.configData_eq.symm.trans (r.configData_config _))
  show w.configData.get? "redis.conf" = _
  rw [hdata, StringMap.get?_insert, if_pos rfl]

end Owned

end RedisControl
