import RedisControl.Owned.ConfigMaps

/-!
# What the config maps of an instance hold

The templates of this library see two facts about an instance only: whether clients connect
securely, and whether there is a bundle of authorities. They render for every combination. The
text of the user comes after the rendered configuration of the server, which ends its last line,
so it follows on it as it is.

* `Redis.isOk_configData` : rendering the config maps never fails.
* `Redis.scriptsData_congr` : the scripts are the same where the two facts are.
* `Redis.configData_config` : the configuration of the server, followed by the text of the user.
-/

namespace RedisControl

namespace Redis

/-! ## The two facts -/

theorem parameters_congr {r r' : Redis} (hsecure : r.spec.tls.enabled = r'.spec.tls.enabled)
    (hbundle : r.spec.tls.caBundle?.isSome = r'.spec.tls.caBundle?.isSome) :
    r.parameters = r'.parameters := by
  have hfile : r.caFile = r'.caFile := by rw [caFile, caFile, hbundle]
  rw [parameters, parameters, hsecure, hfile]

theorem scriptsData_congr {r r' : Redis} (hsecure : r.spec.tls.enabled = r'.spec.tls.enabled)
    (hbundle : r.spec.tls.caBundle?.isSome = r'.spec.tls.caBundle?.isSome) (name name' : String) :
    r.configData ⟨name, .scripts, .empty⟩ = r'.configData ⟨name', .scripts, .empty⟩ := by
  rw [configData, configData, parameters_congr hsecure hbundle]

/-! ## The configuration of the server -/

/-- The configuration of the server before the text of the user. -/
def serverText (r : Redis) : String :=
  (Template.render serverConfig r.parameters).toOption.getD ""

theorem serverText_congr {r r' : Redis} (hsecure : r.spec.tls.enabled = r'.spec.tls.enabled)
    (hbundle : r.spec.tls.caBundle?.isSome = r'.spec.tls.caBundle?.isSome) :
    r.serverText = r'.serverText := by
  rw [serverText, serverText, parameters_congr hsecure hbundle]

/-- What holds of the characters of a rendered template, holds of its text. -/
theorem exists_render_of_passes {r : Redis} {source : String} {p : List Char → Bool}
    (h : (Template.passes r.parameters Template.maxPasses source.toList).toOption.any p = true) :
    ∃ text, Template.render source r.parameters = .ok text ∧ p text.toList = true := by
  rw [Template.render]
  generalize Template.passes r.parameters Template.maxPasses source.toList = rendered at h
  cases rendered with
  | error e => cases h
  | ok cs =>
    refine ⟨String.ofList cs, rfl, ?_⟩
    rw [String.toList_ofList]
    exact h

theorem render_serverConfig (r : Redis) :
    Template.render serverConfig r.parameters = .ok r.serverText ∧
      r.serverText.toList.getLast? = some '\n' := by
  have hends : (Template.passes r.parameters Template.maxPasses serverConfig.toList).toOption.any
      (fun text => text.getLast? == some '\n') = true := by
    unfold parameters caFile
    generalize r.spec.tls.enabled = secure
    generalize r.spec.tls.caBundle?.isSome = bundle
    revert secure bundle
    decide +kernel
  obtain ⟨text, hrender, hlast⟩ := exists_render_of_passes hends
  rw [serverText, hrender]
  exact ⟨rfl, eq_of_beq hlast⟩

/-- The templates depend on two facts about the spec, and render for all four combinations. -/
theorem isOk_renderFiles (r : Redis) (role : ConfigRole) :
    (renderFiles r.parameters role.sources .empty).isOk = true := by
  cases role with
  | scripts =>
    unfold parameters caFile
    generalize r.spec.tls.enabled = secure
    generalize r.spec.tls.caBundle?.isSome = bundle
    revert secure bundle
    decide +kernel
  | config =>
    show ((Template.render serverConfig r.parameters).bind _).isOk = true
    rw [r.render_serverConfig.1]
    rfl

theorem isOk_configData (r : Redis) (t : ConfigTemplate) : ∃ data, r.configData t = .ok data := by
  have h := r.isOk_renderFiles t.role
  unfold configData
  cases hf : renderFiles r.parameters t.role.sources .empty with
  | error e => rw [hf] at h; cases h
  | ok files => exact ⟨_, rfl⟩

/-! ## The text of the user -/

theorem appendText_of_getLast? {file extra : String} (h : file.toList.getLast? = some '\n') :
    appendText file extra = file ++ extra := if_pos (Or.inr h)

theorem configData_config (r : Redis) (name : String) :
    r.configData ⟨name, .config, r.customFiles⟩ =
      .ok (StringMap.empty.insert "redis.conf"
        (r.serverText ++ r.spec.customConfig.getD "")) := by
  obtain ⟨hrender, hends⟩ := r.render_serverConfig
  have hfiles : renderFiles r.parameters ConfigRole.config.sources .empty =
      .ok (StringMap.empty.insert "redis.conf" r.serverText) := by
    show (Template.render serverConfig r.parameters).bind _ = _
    rw [hrender]
    rfl
  -- Custom text is not asked for at all where there is none, and empty text adds nothing.
  have hcustom : addCustomData (StringMap.empty.insert "redis.conf" r.serverText) r.customFiles =
      StringMap.empty.insert "redis.conf" (r.serverText ++ r.spec.customConfig.getD "") := by
    have hplain : r.serverText ++ "" = r.serverText := String.append_empty
    unfold customFiles
    cases r.spec.customConfig with
    | none =>
      rw [Option.getD_none, hplain]
      rfl
    | some text =>
      rw [Option.getD_some]
      by_cases htext : text = ""
      · rw [htext, hplain]
        rfl
      · show addCustomData _ (if text = "" then _ else _) = _
        rw [if_neg htext]
        show (StringMap.empty.insert "redis.conf" r.serverText).insert "redis.conf"
          (appendText (((StringMap.empty.insert "redis.conf" r.serverText).get?
            "redis.conf").getD "") text) = _
        rw [StringMap.get?_insert, if_pos rfl, Option.getD_some, appendText_of_getLast? hends]
        exact StringMap.ext_get? fun k => by
          by_cases hk : "redis.conf" = k <;> simp [hk]
  rw [configData, hfiles, ← hcustom]
  rfl

end Redis

end RedisControl
