import RedisControl.Proofs.RenderedFiles

/-!
# The files of a config map

**Theorem (`config_map_contents`).** A config map can be built for every complete instance and
every template. Its files are those that belong to the role of the template, and those that custom
text is given for. A file of the first sort begins with its rendered source, in which no opening is
left, whatever the custom text is; custom text stands at the end of its file as it is, on a line of
its own; and the hash that comes with the config map is that of these files. The text of the user
for an instance is custom text for one file of one config map, and changes nothing else.

The files are entered in a map in two loops, first those of the role and then the custom text. A
loop enters a file under each name at most once (`get?_renderFiles`, `get?_addCustomData`), because
the names of the sources are different and those of the custom text are the keys of a map. So what
a loop does to one name is what it does to a file at that name. Nothing is rendered after the first
loop, and that is all there is to braces in custom text.

* `ConfigTemplate.Files` : what the files of a config map have to be.
* `Redis.files_of_configData` : that is what they are.
-/

namespace RedisControl

/-! ## Files with custom text -/

/-- What stands between a file and the text added to it, so that the text has a line of its own. -/
def lineEnd (file : String) : String :=
  if file ≠ "" ∧ file.toList.getLast? ≠ some '\n' then "\n" else ""

theorem appendText_eq (file extra : String) :
    appendText file extra = file ++ lineEnd file ++ extra := by
  unfold appendText lineEnd
  by_cases h : file = "" ∨ file.toList.getLast? = some '\n'
  · rw [if_pos h, if_neg fun hends => not_or.2 hends h, String.append_empty]
  · rw [if_neg h, if_pos (not_or.1 h)]

theorem appendText_empty (extra : String) : appendText "" extra = extra := by
  rw [appendText, if_pos (Or.inl rfl), String.empty_append]

/-- Custom text changes the file of its name only, and of that only the end. -/
theorem get?_addCustomData (files custom : StringMap String) (name : String) :
    (addCustomData files custom).get? name =
      match custom.get? name with
      | none => files.get? name
      | some extra => some (appendText ((files.get? name).getD "") extra) := by
  obtain ⟨entries, sorted⟩ := custom
  show (entries.foldl _ files).get? name = match StringMap.find? name entries with
    | none => files.get? name
    | some extra => some (appendText ((files.get? name).getD "") extra)
  induction entries generalizing files with
  | nil => rfl
  | cons e entries ih =>
    obtain ⟨key, extra⟩ := e
    obtain ⟨hlater, sorted⟩ := List.pairwise_cons.1 sorted
    rw [List.foldl_cons, ih _ sorted, StringMap.get?_insert, StringMap.find?]
    by_cases hkey : key = name
    · -- The entries that follow have other names.
      subst hkey
      rw [StringMap.find?_eq_none hlater, if_pos rfl, if_pos rfl]
    · rw [if_neg hkey, if_neg hkey]

/-! ## Rendered files -/

theorem get?_renderFiles {values : StringMap String} {sources : List (String × String)}
    (distinct : (sources.map (·.1)).Nodup) {files data : StringMap String}
    (h : Redis.renderFiles values sources files = .ok data) :
    (∀ name source, (name, source) ∈ sources →
      ∃ text, Template.render source values = .ok text ∧ data.get? name = some text) ∧
    ∀ name, name ∉ sources.map (·.1) → data.get? name = files.get? name := by
  induction sources generalizing files with
  | nil =>
    obtain rfl := Except.ok.inj h
    exact ⟨fun _ _ hmem => absurd hmem List.not_mem_nil, fun _ _ => rfl⟩
  | cons e sources ih =>
    obtain ⟨key, source⟩ := e
    obtain ⟨hkey, distinct⟩ := List.nodup_cons.1 distinct
    cases hrender : Template.render source values with
    | error e =>
      rw [Redis.renderFiles, hrender] at h
      cases h
    | ok text =>
      rw [Redis.renderFiles, hrender] at h
      obtain ⟨hsources, hothers⟩ := ih distinct h
      constructor
      · intro name source' hmem
        rcases List.mem_cons.1 hmem with heq | hmem
        · obtain ⟨rfl, rfl⟩ := Prod.mk.inj heq
          refine ⟨text, hrender, ?_⟩
          rw [hothers name hkey, StringMap.get?_insert, if_pos rfl]
        · exact hsources name source' hmem
      · intro name hname
        obtain ⟨hne, hname⟩ := not_or.1 (mt List.mem_cons.2 hname)
        rw [hothers name hname, StringMap.get?_insert, if_neg (Ne.symm hne)]

theorem ConfigRole.distinct_sources (role : ConfigRole) : (role.sources.map (·.1)).Nodup := by
  cases role with
  | scripts | config => decide

/-! ## The files of a config map -/

/-- What the files of a config map have to be, given the values of the keys in its templates. -/
structure ConfigTemplate.Files (t : ConfigTemplate) (values data : StringMap String) : Prop where
  /-- The files of the role and those with custom text are there, and no others. -/
  names : ∀ name, data.contains name = true ↔
    name ∈ t.role.sources.map (·.1) ∨ t.customData.contains name = true
  /-- A file of the role is its source, rendered until no opening is left, followed by custom text
  if there is some. -/
  rendered : ∀ name source, (name, source) ∈ t.role.sources →
    ∃ text, Template.render source values = .ok text ∧ ¬ ['{', '{'] <:+: text.toList ∧
      (t.customData.get? name = none → data.get? name = some text) ∧
      ∀ extra, t.customData.get? name = some extra →
        data.get? name = some (text ++ lineEnd text ++ extra)
  /-- Any other file is its custom text. -/
  added : ∀ name extra, t.customData.get? name = some extra →
    name ∉ t.role.sources.map (·.1) → data.get? name = some extra

namespace Redis

theorem files_of_configData {r : Redis} {t : ConfigTemplate} {data : StringMap String}
    (h : r.configData t = .ok data) : t.Files r.parameters data := by
  obtain ⟨files, hfiles, rfl⟩ : ∃ files, renderFiles r.parameters t.role.sources .empty = .ok files ∧
      addCustomData files t.customData = data := by
    unfold configData at h
    cases hfiles : renderFiles r.parameters t.role.sources .empty with
    | error e =>
      rw [hfiles] at h
      cases h
    | ok files =>
      rw [hfiles] at h
      exact ⟨files, rfl, Except.ok.inj h⟩
  -- The rendered files are known one by one. What custom text adds to them is told by its name
  -- alone.
  obtain ⟨hsources, hothers⟩ := get?_renderFiles t.role.distinct_sources hfiles
  have hcontains : ∀ name, files.contains name = true ↔ name ∈ t.role.sources.map (·.1) := by
    intro name
    by_cases hname : name ∈ t.role.sources.map (·.1)
    · obtain ⟨⟨_, source⟩, hmem, rfl⟩ := List.mem_map.1 hname
      obtain ⟨text, -, htext⟩ := hsources _ source hmem
      exact iff_of_true (by rw [StringMap.contains, htext]; rfl) hname
    · refine iff_of_false ?_ hname
      rw [StringMap.contains, hothers name hname]
      exact Bool.false_ne_true
  refine ⟨?_, ?_, ?_⟩
  · intro name
    rw [← hcontains, StringMap.contains, StringMap.contains, StringMap.contains, get?_addCustomData]
    cases t.customData.get? name with
    | none => exact (or_iff_left Bool.false_ne_true).symm
    | some extra => exact iff_of_true rfl (Or.inr rfl)
  · intro name source hmem
    obtain ⟨text, hrender, htext⟩ := hsources name source hmem
    refine ⟨text, hrender, Template.not_isInfix_of_render hrender, ?_, ?_⟩
    · intro hcustom
      rw [get?_addCustomData, hcustom]
      exact htext
    · intro extra hcustom
      rw [get?_addCustomData, hcustom, htext, ← appendText_eq]
      rfl
  · intro name extra hcustom hname
    rw [get?_addCustomData, hcustom, hothers name hname, StringMap.get?_empty]
    exact congrArg some (appendText_empty extra)

/-! ## The text of the user -/

/-- The instance with other text of the user. -/
def withCustomConfig (r : Redis) (custom : Option String) : Redis :=
  { r with spec := { r.spec with customConfig := custom } }

end Redis

/-- The objects of the instance with other text of the user. -/
def Owned.withCustomConfig {r : Redis} (w : Owned r) (custom : Option String) :
    Owned (r.withCustomConfig custom) where
  metadata := w.metadata
  scriptsData := w.scriptsData
  configData := StringMap.empty.insert "redis.conf" (r.serverText ++ custom.getD "")
  metadata_eq := w.metadata_eq
  name_metadata := w.name_metadata
  scriptsData_eq := w.scriptsData_eq
  configData_eq := (r.withCustomConfig custom).configData_config _

/-! ## The theorem -/

/-- **The files of a config map.** -/
theorem config_map_contents {r : Redis} (complete : r.IsComplete) :
    (∀ t : ConfigTemplate, ∃ metadata data,
      r.configMap t = .ok (⟨metadata, .configMap (some data)⟩, contentHash (.ofStrings data)) ∧
      r.ownedMetadata t.name = .ok metadata ∧ t.Files r.parameters data) ∧
    ∀ custom : Option String, ∃ scripts config config' generated,
      r.configTemplates.map r.configMap = [.ok scripts, .ok config] ∧
      (r.withCustomConfig custom).configTemplates.map (r.withCustomConfig custom).configMap =
        [.ok scripts, .ok config'] ∧
      config.1.metadata = config'.1.metadata ∧ config.1.metadata.name = some r.configDataName ∧
      config.1.file? "redis.conf" = some (generated ++ r.spec.customConfig.getD "") ∧
      config'.1.file? "redis.conf" = some (generated ++ custom.getD "") ∧
      ∀ name, name ≠ "redis.conf" → config.1.file? name = config'.1.file? name := by
  obtain ⟨w⟩ := Redis.owned_of_isComplete complete
  constructor
  · intro t
    obtain ⟨data, hdata⟩ := r.isOk_configData t
    refine ⟨w.metadata t.name, data, ?_, w.metadata_eq t.name, Redis.files_of_configData hdata⟩
    rw [Redis.configMap, hdata, w.metadata_eq]
    rfl
  · intro custom
    have hconfig := Except.ok.inj (w.configData_eq.symm.trans (r.configData_config _))
    refine ⟨_, _, _, r.serverText, w.configMaps_eq, (w.withCustomConfig custom).configMaps_eq, rfl,
      w.name_metadata _, w.file?_config, (w.withCustomConfig custom).file?_config, ?_⟩
    intro name hname
    show w.configData.get? name = (w.withCustomConfig custom).configData.get? name
    rw [hconfig, Owned.withCustomConfig, StringMap.get?_insert, StringMap.get?_insert,
      if_neg (Ne.symm hname), if_neg (Ne.symm hname)]

namespace ConfigContents

def cache : Redis where
  metadata := { name := some "cache", ns := some "demo", uid := some "1" }
  spec := {}
  status := none

/-- Custom text with openings that are never closed. -/
def openings : ConfigTemplate :=
  ⟨"extra", .config, .ofList [("redis.conf", "\x7b\x7b a"), ("users.acl", "\x7b\x7b b")]⟩

end ConfigContents

open ConfigContents in
/-- An opening in custom text stays as it is, in a file of the role and in a file of its own, while
none is left in the rendered source. -/
theorem config_map_contents_openings : ∃ metadata data text, ¬ ['{', '{'] <:+: text.toList ∧
    cache.configMap openings =
      .ok (⟨metadata, .configMap (some data)⟩, contentHash (.ofStrings data)) ∧
    data.get? "redis.conf" = some (text ++ lineEnd text ++ "\x7b\x7b a") ∧
    data.get? "users.acl" = some "\x7b\x7b b" := by
  obtain ⟨hfiles, -⟩ := config_map_contents (r := cache) ⟨rfl, rfl, rfl⟩
  obtain ⟨metadata, data, hmap, -, files⟩ := hfiles openings
  obtain ⟨text, -, hclosed, -, htext⟩ :=
    files.rendered "redis.conf" serverConfig List.mem_cons_self
  exact ⟨metadata, data, text, hclosed, hmap, htext _ (by decide),
    files.added _ _ (by decide) (by decide)⟩

end RedisControl
