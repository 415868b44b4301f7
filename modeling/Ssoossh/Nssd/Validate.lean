import Ssoossh.Nssd.Config

/-!
# Which configurations the daemon accepts

`Config.Validate` (`nssd/config/config.go`) for the options that the model has: the timings,
the id range and the lists of names, and the paths.  What it says about the server, TLS, the
socket, the refresher, the cache mode, the login refresh and the units of sshd is left out, so
more configurations are valid here than there.
-/

namespace Ssoossh.Nssd

open GoBytes

/-- The options that are checked. -/
inductive Setting where
  | timeout
  | offlineTimeout
  | entryCacheTimeout
  | entryNegativeTimeout
  | entryCacheUserTimeout
  | entryCacheGroupTimeout
  | cacheExpireOffline
  | loginSoftTTL
  | entryCacheNowaitPercentage
  | minID
  | maxID
  | filterUsers
  | filterGroups
  | requireGroups
  | shellFallback
  | disabledShell
  | overrideShell
  | fallbackHomedir
  | overrideHomedir
  | allowedShells
  | vetoedShells
deriving DecidableEq, Repr

/-- What is wrong with an option. -/
inductive ConfigFault where
  | notPositive (option : Setting)
  | negative (option : Setting)
  | range (option : Setting)
  | name (option : Setting) (fault : NameFault)
  | required (option : Setting)
  | path (option : Setting) (value : Bytes)
deriving DecidableEq

namespace Config

variable (cfg : Config)

/-- `validateTimings`. -/
def validateTimings : List ConfigFault :=
  let positive : List (Setting × Int) :=
    [(.entryCacheTimeout, cfg.entryCacheTimeout), (.entryNegativeTimeout, cfg.entryNegativeTimeout),
      (.offlineTimeout, cfg.offlineTimeout), (.timeout, cfg.timeout)]
  let notNegative : List (Setting × Int) :=
    [(.cacheExpireOffline, cfg.cacheExpireOffline), (.entryCacheGroupTimeout, cfg.entryCacheGroupTimeout),
      (.entryCacheUserTimeout, cfg.entryCacheUserTimeout), (.loginSoftTTL, cfg.loginSoftTTL)]
  positive.filterMap (fun (option, value) => if value ≤ 0 then some (.notPositive option) else none) ++
    notNegative.filterMap (fun (option, value) => if value < 0 then some (.negative option) else none) ++
    if cfg.entryCacheNowaitPercentage < 0 ∨ cfg.entryCacheNowaitPercentage > 100 then
      [.range .entryCacheNowaitPercentage]
    else []

/-- `validateIDs`. -/
def validateIDs : List ConfigFault :=
  let lists : List (Setting × List Bytes) :=
    [(.filterGroups, cfg.filterGroups), (.filterUsers, cfg.filterUsers), (.requireGroups, cfg.requireGroups)]
  (if cfg.minID = 0 then [.range .minID] else []) ++
    (if cfg.maxID ≠ 0 ∧ cfg.maxID < cfg.minID then [.range .maxID] else []) ++
    lists.flatMap fun (option, names) => (names.filterMap nameFault).map (ConfigFault.name option)

/-- One path option.  A home directory may start with the server's. -/
def pathFault (option : Setting) (required homedir : Bool) (value : Bytes) : Option ConfigFault :=
  if value = [] then if required then some (.required option) else none
  else if homedir ∧ hasPrefix value (ofString "%h") then none
  else if !validPath value then some (.path option value)
  else none

/-- `validatePaths`. -/
def validatePaths : List ConfigFault :=
  let lists : List (Setting × List Bytes) :=
    [(.allowedShells, cfg.allowedShells), (.vetoedShells, cfg.vetoedShells)]
  [pathFault .disabledShell true false cfg.disabledShell,
      pathFault .fallbackHomedir true true cfg.fallbackHomedir,
      pathFault .overrideHomedir false true cfg.overrideHomedir,
      pathFault .overrideShell false false cfg.overrideShell,
      pathFault .shellFallback true false cfg.shellFallback].reduceOption ++
    lists.flatMap fun (option, paths) =>
      (paths.filter fun p => !validPath p).map (ConfigFault.path option)

/-- `Validate`: all faults, not only the first. -/
def validate : List ConfigFault := cfg.validateTimings ++ cfg.validateIDs ++ cfg.validatePaths

/-- The daemon starts with the configuration. -/
def Valid : Prop := cfg.validate = []

instance : Decidable cfg.Valid := inferInstanceAs (Decidable (_ = _))

/-- The defaults pass. -/
example : Valid {} := by decide +kernel

variable {cfg}

theorem Valid.timings (valid : cfg.Valid) : cfg.validateTimings = [] :=
  (List.append_eq_nil_iff.mp (List.append_eq_nil_iff.mp valid).1).1

theorem Valid.paths (valid : cfg.Valid) : cfg.validatePaths = [] :=
  (List.append_eq_nil_iff.mp valid).2

theorem Valid.offlineTimeout_pos (valid : cfg.Valid) : 0 < cfg.offlineTimeout := by
  by_contra late
  have flagged : ConfigFault.notPositive .offlineTimeout ∈ cfg.validateTimings := by
    refine List.mem_append_left _ (List.mem_append_left _ (List.mem_filterMap.mpr ?_))
    exact ⟨(.offlineTimeout, cfg.offlineTimeout), by simp, if_pos (by omega)⟩
  rw [valid.timings] at flagged
  exact absurd flagged List.not_mem_nil

end Config

end Ssoossh.Nssd
