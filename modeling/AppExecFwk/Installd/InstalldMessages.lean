import AppExecFwk.Codec.CompatibleParcel
import AppExecFwk.Info.ErrCode

/-!
# Messages to installd

The bundle manager calls installd through a proxy, which writes the arguments of
a call into a parcel, and a host, which reads them, makes the call and writes the
result into another.  Each call has its own list of writes and its own list of
reads.  A write may fail when a parcel is full.
-/

namespace AppExecFwk

variable {υ σ : Type}

/-- The calls of `IInstalld`, without what they return. -/
inductive InstalldCall where
  | createBundleDir (bundleDir : String)
  | extractModuleFiles (srcModulePath targetPath targetSoPath cpuAbi : String)
  | renameModuleDir (oldPath newPath : String)
  | createBundleDataDir (bundleName : String) (userid uid gid : Int32) (apl : String)
  | removeBundleDataDir (bundleName : String) (userid : Int32)
  | removeModuleDataDir (moduleName : String) (userid : Int32)
  | removeDir (dir : String)
  | cleanBundleDataDir (bundleDir : String)
  | getBundleStats (bundleName : String) (userId : Int32)
  | setDirApl (dir bundleName apl : String)
  | getBundleCachePath (dir : String)
  deriving DecidableEq

/-- What a call returns by reference. -/
structure InstalldOutput where
  bundleStats : List Int64 := []
  cachePath : List String := []
  deriving DecidableEq

structure InstalldAnswer where
  result : ErrCode
  output : InstalldOutput := {}
  deriving DecidableEq

/-- The functions installd offers, over the state `σ` of what it manages. -/
structure IInstalld (σ : Type) where
  createBundleDir : String → σ → ErrCode × σ
  extractModuleFiles : String → String → String → String → σ → ErrCode × σ
  renameModuleDir : String → String → σ → ErrCode × σ
  createBundleDataDir : String → Int32 → Int32 → Int32 → String → σ → ErrCode × σ
  removeBundleDataDir : String → Int32 → σ → ErrCode × σ
  removeModuleDataDir : String → Int32 → σ → ErrCode × σ
  removeDir : String → σ → ErrCode × σ
  cleanBundleDataDir : String → σ → ErrCode × σ
  getBundleStats : String → Int32 → σ → ErrCode × List Int64 × σ
  setDirApl : String → String → String → σ → ErrCode × σ
  getBundleCachePath : String → σ → ErrCode × List String × σ

namespace IInstalld

/-- An answer that is a result only. -/
def resultOf (called : ErrCode × σ) : InstalldAnswer × σ :=
  (⟨called.1, {}⟩, called.2)

/-- Call the function itself. -/
def perform (installd : IInstalld σ) : InstalldCall → σ → InstalldAnswer × σ
  | .createBundleDir bundleDir, world => resultOf (installd.createBundleDir bundleDir world)
  | .extractModuleFiles srcModulePath targetPath targetSoPath cpuAbi, world =>
    resultOf (installd.extractModuleFiles srcModulePath targetPath targetSoPath cpuAbi world)
  | .renameModuleDir oldPath newPath, world =>
    resultOf (installd.renameModuleDir oldPath newPath world)
  | .createBundleDataDir bundleName userid uid gid apl, world =>
    resultOf (installd.createBundleDataDir bundleName userid uid gid apl world)
  | .removeBundleDataDir bundleName userid, world =>
    resultOf (installd.removeBundleDataDir bundleName userid world)
  | .removeModuleDataDir moduleName userid, world =>
    resultOf (installd.removeModuleDataDir moduleName userid world)
  | .removeDir dir, world => resultOf (installd.removeDir dir world)
  | .cleanBundleDataDir bundleDir, world =>
    resultOf (installd.cleanBundleDataDir bundleDir world)
  | .getBundleStats bundleName userId, world =>
    let (result, bundleStats, world) := installd.getBundleStats bundleName userId world
    (⟨result, { bundleStats }⟩, world)
  | .setDirApl dir bundleName apl, world =>
    resultOf (installd.setDirApl dir bundleName apl world)
  | .getBundleCachePath dir, world =>
    let (result, cachePath, world) := installd.getBundleCachePath dir world
    (⟨result, { cachePath }⟩, world)

end IInstalld

/-! ## Parcels -/

/-- What is written into the parcel of a call or of its reply. -/
inductive InstalldItem (υ : Type) where
  | interfaceToken (descriptor : String)
  | string16 (value : υ)
  | int32 (value : Int32)
  | int64Vector (values : List Int64)
  | stringVector (values : List String)

/-- A parcel, with what has not been read from it. -/
abbrev InstalldParcel (υ : Type) := List (InstalldItem υ)

namespace InstalldParcel

/-- Write one item after another up to the first that fails. -/
def writeAll (hasRoom : InstalldParcel υ → InstalldItem υ → Bool) :
    List (InstalldItem υ) → InstalldParcel υ → Bool × InstalldParcel υ
  | [], parcel => (true, parcel)
  | item :: items, parcel =>
    if hasRoom parcel item then writeAll hasRoom items (parcel ++ [item])
    else (false, parcel)

theorem writeAll_of_true {hasRoom : InstalldParcel υ → InstalldItem υ → Bool}
    {items : List (InstalldItem υ)} {parcel : InstalldParcel υ}
    (written : (writeAll hasRoom items parcel).1 = true) :
    (writeAll hasRoom items parcel).2 = parcel ++ items := by
  induction items generalizing parcel with
  | nil => simp [writeAll]
  | cons item items induction =>
      rw [writeAll] at written ⊢
      split at written
      · rename_i room
        rw [if_pos room, induction written]
        simp
      · cases written

/-- `Str16ToStr8(data.ReadString16())`; without a string to read it is empty. -/
def readText (conversion : StringConversion υ) : StateM (InstalldParcel υ) String :=
  fun parcel =>
  match parcel with
  | .string16 value :: rest => (conversion.str16ToStr8 value, rest)
  | _ => ("", parcel)

def readInteger : StateM (InstalldParcel υ) Int32 := fun parcel =>
  match parcel with
  | .int32 value :: rest => (value, rest)
  | _ => (0, parcel)

def readInterfaceToken : StateM (InstalldParcel υ) String := fun parcel =>
  match parcel with
  | .interfaceToken descriptor :: rest => (descriptor, rest)
  | _ => ("", parcel)

end InstalldParcel

/-! ## The proxy -/

/-- The code of a message and what is written for it behind the token. -/
structure InstalldRequest (υ : Type) where
  code : UInt32
  arguments : List (InstalldItem υ)

namespace InstalldProxy

def descriptor : String := "ohos.appexecfwk.Installd"

variable (conversion : StringConversion υ)

def string (text : String) : InstalldItem υ := .string16 (conversion.str8ToStr16 text)

def createBundleDir (bundleDir : String) : InstalldRequest υ :=
  ⟨1, [string conversion bundleDir]⟩

def extractModuleFiles (srcModulePath targetPath targetSoPath cpuAbi : String) :
    InstalldRequest υ :=
  ⟨2, [string conversion srcModulePath, string conversion targetPath,
    string conversion targetSoPath, string conversion cpuAbi]⟩

def renameModuleDir (oldPath newPath : String) : InstalldRequest υ :=
  ⟨3, [string conversion oldPath, string conversion newPath]⟩

def createBundleDataDir (bundleName : String) (userid uid gid : Int32) (apl : String) :
    InstalldRequest υ :=
  ⟨4, [string conversion bundleName, .int32 userid, .int32 uid, .int32 gid,
    string conversion apl]⟩

def cleanBundleDataDir (bundleDir : String) : InstalldRequest υ :=
  ⟨5, [string conversion bundleDir]⟩

def removeBundleDataDir (bundleName : String) (userid : Int32) : InstalldRequest υ :=
  ⟨6, [string conversion bundleName, .int32 userid]⟩

def removeModuleDataDir (moduleName : String) (userid : Int32) : InstalldRequest υ :=
  ⟨7, [string conversion moduleName, .int32 userid]⟩

def removeDir (dir : String) : InstalldRequest υ :=
  ⟨8, [string conversion dir]⟩

def getBundleStats (bundleName : String) (userId : Int32) : InstalldRequest υ :=
  ⟨9, [string conversion bundleName, .int32 userId]⟩

def setDirApl (dir bundleName apl : String) : InstalldRequest υ :=
  ⟨10, [string conversion dir, string conversion bundleName, string conversion apl]⟩

def getBundleCachePath (dir : String) : InstalldRequest υ :=
  ⟨11, [string conversion dir]⟩

/-- The message of a call. -/
def request : InstalldCall → InstalldRequest υ
  | .createBundleDir bundleDir => createBundleDir conversion bundleDir
  | .extractModuleFiles srcModulePath targetPath targetSoPath cpuAbi =>
    extractModuleFiles conversion srcModulePath targetPath targetSoPath cpuAbi
  | .renameModuleDir oldPath newPath => renameModuleDir conversion oldPath newPath
  | .createBundleDataDir bundleName userid uid gid apl =>
    createBundleDataDir conversion bundleName userid uid gid apl
  | .removeBundleDataDir bundleName userid => removeBundleDataDir conversion bundleName userid
  | .removeModuleDataDir moduleName userid => removeModuleDataDir conversion moduleName userid
  | .removeDir dir => removeDir conversion dir
  | .cleanBundleDataDir bundleDir => cleanBundleDataDir conversion bundleDir
  | .getBundleStats bundleName userId => getBundleStats conversion bundleName userId
  | .setDirApl dir bundleName apl => setDirApl conversion dir bundleName apl
  | .getBundleCachePath dir => getBundleCachePath conversion dir

/-- The items of a message, with the token before them. -/
def items (call : InstalldCall) : List (InstalldItem υ) :=
  .interfaceToken descriptor :: (request conversion call).arguments

/-- The vector `GetBundleStats` reads when the call has succeeded. -/
def readStats (ret : ErrCode) (reply : InstalldParcel υ) : InstalldAnswer :=
  if ret = .ok then
    match reply with
    | .int64Vector bundleStats :: _ => ⟨.ok, { bundleStats }⟩
    | _ => ⟨.parcelError, {}⟩
  else ⟨ret, {}⟩

/-- The vector `GetBundleCachePath` reads when the call has succeeded. -/
def readPaths (ret : ErrCode) (reply : InstalldParcel υ) : InstalldAnswer :=
  if ret = .ok then
    match reply with
    | .stringVector cachePath :: _ => ⟨.ok, { cachePath }⟩
    | _ => ⟨.parcelError, {}⟩
  else ⟨ret, {}⟩

/-- What a proxy makes of a status and a reply. -/
def receive (call : InstalldCall) (status : Int32) (reply : InstalldParcel υ) : InstalldAnswer :=
  if status ≠ 0 then ⟨.installInstalldServiceError, {}⟩
  else
    let (ret, reply) := InstalldParcel.readInteger reply
    match call with
    | .getBundleStats _ _ => readStats ret reply
    | .getBundleCachePath _ => readPaths ret reply
    | _ => ⟨ret, {}⟩

end InstalldProxy

/-! ## The host -/

/-- How a message is read, and what is written for its answer. -/
structure InstalldHandler (υ : Type) where
  read : StateM (InstalldParcel υ) InstalldCall
  replies : InstalldAnswer → List (InstalldItem υ)

namespace InstalldHost

open InstalldParcel

/-- Most calls are answered with their result. -/
def resultOnly (answer : InstalldAnswer) : List (InstalldItem υ) := [.int32 answer.result]

variable (conversion : StringConversion υ)

def handleCreateBundleDir : InstalldHandler υ where
  read := return .createBundleDir (← readText conversion)
  replies := resultOnly

def handleExtractModuleFiles : InstalldHandler υ where
  read := do
    let srcModulePath ← readText conversion
    let targetPath ← readText conversion
    let targetSoPath ← readText conversion
    let cpuAbi ← readText conversion
    return .extractModuleFiles srcModulePath targetPath targetSoPath cpuAbi
  replies := resultOnly

def handleRenameModuleDir : InstalldHandler υ where
  read := do
    let oldPath ← readText conversion
    let newPath ← readText conversion
    return .renameModuleDir oldPath newPath
  replies := resultOnly

def handleCreateBundleDataDir : InstalldHandler υ where
  read := do
    let bundleName ← readText conversion
    let userid ← readInteger
    let uid ← readInteger
    let gid ← readInteger
    let apl ← readText conversion
    return .createBundleDataDir bundleName userid uid gid apl
  replies := resultOnly

def handleRemoveBundleDataDir : InstalldHandler υ where
  read := do
    let bundleName ← readText conversion
    let userid ← readInteger
    return .removeBundleDataDir bundleName userid
  replies := resultOnly

def handleRemoveModuleDataDir : InstalldHandler υ where
  read := do
    let moduleName ← readText conversion
    let userid ← readInteger
    return .removeModuleDataDir moduleName userid
  replies := resultOnly

def handleRemoveDir : InstalldHandler υ where
  read := return .removeDir (← readText conversion)
  replies := resultOnly

def handleCleanBundleDataDir : InstalldHandler υ where
  read := return .cleanBundleDataDir (← readText conversion)
  replies := resultOnly

def handleGetBundleStats : InstalldHandler υ where
  read := do
    let bundleName ← readText conversion
    let userId ← readInteger
    return .getBundleStats bundleName userId
  replies answer := [.int32 answer.result, .int64Vector answer.output.bundleStats]

def handleSetDirApl : InstalldHandler υ where
  read := do
    let dataDir ← readText conversion
    let bundleName ← readText conversion
    let apl ← readText conversion
    return .setDirApl dataDir bundleName apl
  replies := resultOnly

def handleGetBundleCachePath : InstalldHandler υ where
  read := return .getBundleCachePath (← readText conversion)
  replies answer := [.int32 answer.result, .stringVector answer.output.cachePath]

/-- The handler of a code. -/
def funcMap (code : UInt32) : Option (InstalldHandler υ) :=
  if code = 1 then some (handleCreateBundleDir conversion)
  else if code = 2 then some (handleExtractModuleFiles conversion)
  else if code = 3 then some (handleRenameModuleDir conversion)
  else if code = 4 then some (handleCreateBundleDataDir conversion)
  else if code = 5 then some (handleCleanBundleDataDir conversion)
  else if code = 6 then some (handleRemoveBundleDataDir conversion)
  else if code = 7 then some (handleRemoveModuleDataDir conversion)
  else if code = 8 then some (handleRemoveDir conversion)
  else if code = 9 then some (handleGetBundleStats conversion)
  else if code = 10 then some (handleSetDirApl conversion)
  else if code = 11 then some (handleGetBundleCachePath conversion)
  else none

/-- What serving a message has done: its status, the reply, what is managed after it,
and the call made with its answer. -/
structure Served (υ σ : Type) where
  status : Int32
  reply : InstalldParcel υ
  world : σ
  performed : Option (InstalldCall × InstalldAnswer)

/-- The end of a handler, with the arguments read. -/
def serve (installd : IInstalld σ) (hasRoom : InstalldParcel υ → InstalldItem υ → Bool)
    (call : InstalldCall) (replies : InstalldAnswer → List (InstalldItem υ)) (world : σ) :
    Served υ σ :=
  let (answer, world) := installd.perform call world
  let (written, reply) := writeAll hasRoom (replies answer) []
  ⟨if written then 0 else ErrCode.parcelError, reply, world, some (call, answer)⟩

/-- `stub` is the status of a code without a handler. -/
def onRemoteRequest (installd : IInstalld σ)
    (hasRoom : InstalldParcel υ → InstalldItem υ → Bool) (stub : UInt32 → Int32)
    (code : UInt32) (data : InstalldParcel υ) (world : σ) : Served υ σ :=
  let (remoteDescriptor, data) := readInterfaceToken data
  if InstalldProxy.descriptor ≠ remoteDescriptor then ⟨ErrCode.parcelError, [], world, none⟩
  else
    match funcMap conversion code with
    | none => ⟨stub code, [], world, none⟩
    | some handler => serve installd hasRoom (handler.read.run data).run.1 handler.replies world

/-! ## A message of the proxy -/

theorem run_readText (text : String) (rest : InstalldParcel υ) :
    (readText conversion).run (InstalldProxy.string conversion text :: rest) =
      pure (text, rest) := by
  change (conversion.str16ToStr8 (conversion.str8ToStr16 text), rest) = (text, rest)
  rw [conversion.str16ToStr8_str8ToStr16]

theorem run_readInteger (value : Int32) (rest : InstalldParcel υ) :
    (readInteger).run (.int32 value :: rest) = pure (value, rest) := rfl

/-- What is written for the answer of a call. -/
def repliesOf (call : InstalldCall) (answer : InstalldAnswer) : List (InstalldItem υ) :=
  match call with
  | .getBundleStats _ _ => [.int32 answer.result, .int64Vector answer.output.bundleStats]
  | .getBundleCachePath _ => [.int32 answer.result, .stringVector answer.output.cachePath]
  | _ => [.int32 answer.result]

/-- The message of a call is read as that call. -/
theorem funcMap_request (call : InstalldCall) :
    ∃ handler, funcMap conversion (InstalldProxy.request conversion call).code = some handler ∧
      (handler.read.run (InstalldProxy.request conversion call).arguments).run.1 = call ∧
      handler.replies = repliesOf call := by
  cases call with
  | createBundleDir bundleDir =>
      refine ⟨handleCreateBundleDir conversion, rfl, ?_, rfl⟩
      simp [InstalldProxy.request, InstalldProxy.createBundleDir, handleCreateBundleDir,
        run_readText]
  | extractModuleFiles srcModulePath targetPath targetSoPath cpuAbi =>
      refine ⟨handleExtractModuleFiles conversion, rfl, ?_, rfl⟩
      simp [InstalldProxy.request, InstalldProxy.extractModuleFiles, handleExtractModuleFiles,
        run_readText]
  | renameModuleDir oldPath newPath =>
      refine ⟨handleRenameModuleDir conversion, rfl, ?_, rfl⟩
      simp [InstalldProxy.request, InstalldProxy.renameModuleDir, handleRenameModuleDir,
        run_readText]
  | createBundleDataDir bundleName userid uid gid apl =>
      refine ⟨handleCreateBundleDataDir conversion, rfl, ?_, rfl⟩
      simp [InstalldProxy.request, InstalldProxy.createBundleDataDir, handleCreateBundleDataDir,
        run_readText, run_readInteger]
  | removeBundleDataDir bundleName userid =>
      refine ⟨handleRemoveBundleDataDir conversion, rfl, ?_, rfl⟩
      simp [InstalldProxy.request, InstalldProxy.removeBundleDataDir, handleRemoveBundleDataDir,
        run_readText, run_readInteger]
  | removeModuleDataDir moduleName userid =>
      refine ⟨handleRemoveModuleDataDir conversion, rfl, ?_, rfl⟩
      simp [InstalldProxy.request, InstalldProxy.removeModuleDataDir, handleRemoveModuleDataDir,
        run_readText, run_readInteger]
  | removeDir dir =>
      refine ⟨handleRemoveDir conversion, rfl, ?_, rfl⟩
      simp [InstalldProxy.request, InstalldProxy.removeDir, handleRemoveDir, run_readText]
  | cleanBundleDataDir bundleDir =>
      refine ⟨handleCleanBundleDataDir conversion, rfl, ?_, rfl⟩
      simp [InstalldProxy.request, InstalldProxy.cleanBundleDataDir, handleCleanBundleDataDir,
        run_readText]
  | getBundleStats bundleName userId =>
      refine ⟨handleGetBundleStats conversion, rfl, ?_, rfl⟩
      simp [InstalldProxy.request, InstalldProxy.getBundleStats, handleGetBundleStats,
        run_readText, run_readInteger]
  | setDirApl dir bundleName apl =>
      refine ⟨handleSetDirApl conversion, rfl, ?_, rfl⟩
      simp [InstalldProxy.request, InstalldProxy.setDirApl, handleSetDirApl, run_readText]
  | getBundleCachePath dir =>
      refine ⟨handleGetBundleCachePath conversion, rfl, ?_, rfl⟩
      simp [InstalldProxy.request, InstalldProxy.getBundleCachePath, handleGetBundleCachePath,
        run_readText]

/-- Serving the message of a call makes the call once; with status zero the reply is whole. -/
theorem onRemoteRequest_items (installd : IInstalld σ)
    (hasRoom : InstalldParcel υ → InstalldItem υ → Bool) (stub : UInt32 → Int32)
    (call : InstalldCall) (world : σ) :
    let served := onRemoteRequest conversion installd hasRoom stub
      (InstalldProxy.request conversion call).code (InstalldProxy.items conversion call) world
    served.performed = some (call, (installd.perform call world).1) ∧
      served.world = (installd.perform call world).2 ∧
      (served.status = 0 → served.reply = repliesOf call (installd.perform call world).1) := by
  obtain ⟨handler, found, read, replies⟩ := funcMap_request conversion call
  have token : readInterfaceToken (InstalldProxy.items conversion call) =
      (InstalldProxy.descriptor, (InstalldProxy.request conversion call).arguments) := rfl
  simp only [onRemoteRequest, token, found, serve, read, replies, ne_eq, not_true_eq_false,
    if_false, true_and]
  intro status
  have written : (writeAll hasRoom (repliesOf call (installd.perform call world).1) []).1 =
      true := by
    by_contra failed
    rw [if_neg failed] at status
    exact absurd status (by decide)
  rw [writeAll_of_true written, List.nil_append]

/-- What the caller is told when the reply is whole: the vectors only if the call has succeeded. -/
def told (call : InstalldCall) (answer : InstalldAnswer) : InstalldAnswer :=
  match call with
  | .getBundleStats _ _ =>
    if answer.result = .ok then ⟨.ok, { bundleStats := answer.output.bundleStats }⟩
    else ⟨answer.result, {}⟩
  | .getBundleCachePath _ =>
    if answer.result = .ok then ⟨.ok, { cachePath := answer.output.cachePath }⟩
    else ⟨answer.result, {}⟩
  | _ => ⟨answer.result, {}⟩

theorem receive_repliesOf (call : InstalldCall) (answer : InstalldAnswer) :
    InstalldProxy.receive call 0 (repliesOf call answer : InstalldParcel υ) =
      told call answer := by
  cases call <;> rfl

end InstalldHost

end AppExecFwk
