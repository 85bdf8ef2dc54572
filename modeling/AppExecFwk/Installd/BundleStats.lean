import AppExecFwk.Library.Text
import AppExecFwk.Installd.DiskUsage

/-!
# Bundle statistics

`GetBundleStats` of installd subtracts the size of the cache directories from the
size of the data directories of a bundle.  The two are found by two walks over the
same trees, and they add up: what is left is the size of the entries that are not
inside a directory named cache.
-/

namespace AppExecFwk

open DirectoryTree FilePath Finset InstalldOperator

/-- A difference in 64 bits. -/
def subInt64 (first second : Int) : Int :=
  (first - second).bmod (2 ^ 64)

theorem subInt64_eq {first second : Int} (nonneg : 0 ≤ first - second)
    (fits : first - second < 2 ^ 63) : subInt64 first second = first - second := by
  apply Int.bmod_eq_of_le <;> omega

namespace InstalldHostImpl

def bundleCodeDir : ByteString := bytes "/data/app/el1/bundle/public"

/-- The base directories of a bundle. -/
def bundlePath (bundleName : ByteString) (userId : Int32) : List ByteString :=
  bundleEl.map (baseDir bundleName userId)

def getBundleStats (tree : QuietTree) (calls : Nat) (bundleName : ByteString)
    (userId : Int32) : ErrCode × List Int :=
  if bundleName = [] then (.installdParamError, [])
  else
    let fileSize :=
      getDiskUsage tree calls (bundleCodeDir ++ [kSeparator] ++ bundleName)
    let bundlePath := bundlePath bundleName userId
    let cachePath := bundlePath.foldl
      (fun cachePath st => traverseCacheDirectory tree calls st cachePath) []
    let bundleLocalSize := getDiskUsageFromPath tree calls bundlePath
    let cacheSize := getDiskUsageFromPath tree calls cachePath
    let bundleLocalSize := subInt64 bundleLocalSize cacheSize
    let distributedFileSize := getDiskUsage tree calls (accountDir bundleName userId)
    let dataBasePath := bundleEl.map (databaseDir bundleName userId)
    let databaseFileSize := getDiskUsageFromPath tree calls dataBasePath
    (.ok,
      [fileSize, bundleLocalSize, distributedFileSize, databaseFileSize, cacheSize])

end InstalldHostImpl

section Numerals

/-- What a list of bytes has is in the bytes. -/
theorem mem_data_of_mem_toList {text : ByteArray} {byte : UInt8}
    (member : byte ∈ text.toList) : byte ∈ text.data.toList := by
  have loop : ∀ index read, (∀ byte ∈ read, byte ∈ text.data.toList) →
      ∀ byte ∈ ByteArray.toList.loop text index read, byte ∈ text.data.toList := by
    intro index read
    induction index, read using ByteArray.toList.loop.induct text with
    | case1 index read inside ih =>
        intro earlier
        rw [ByteArray.toList.loop, if_pos inside]
        apply ih
        rw [List.forall_mem_cons]
        refine ⟨?_, earlier⟩
        simp only [ByteArray.get!, getElem!_pos text.data index inside]
        exact Array.getElem_mem_toList inside
    | case2 index read outside =>
        intro earlier byte member
        rw [ByteArray.toList.loop, if_neg outside, List.mem_reverse] at member
        exact earlier byte member
  exact loop 0 [] nofun byte member

/-- The bytes of a text come from its characters. -/
theorem exists_char_of_mem_bytes {text : String} {byte : UInt8}
    (member : byte ∈ bytes text) :
    ∃ character ∈ text.toList, byte ∈ String.utf8EncodeChar character := by
  have inData : byte ∈ text.toByteArray.data.toList := mem_data_of_mem_toList member
  rw [← String.utf8Encode_toList, List.utf8Encode, List.toList_data_toByteArray] at inData
  exact List.mem_flatMap.mp inData

/-- A numeral consists of digits and minus signs. -/
theorem mem_idText {userId : Int32} {byte : UInt8}
    (member : byte ∈ InstalldHostImpl.idText userId) : byte = 45 ∨ 48 ≤ byte := by
  obtain ⟨character, inText, encoded⟩ := exists_char_of_mem_bytes member
  have sameText : toString userId.toInt = toString userId := rfl
  have isNumeral : character = '-' ∨ character.isDigit = true := by
    rw [sameText, Text.toList_toString_int32] at inText
    split at inText
    · exact .inr (Nat.isDigit_of_mem_toDigits (by decide) (by decide) inText)
    · rcases List.mem_cons.mp inText with rfl | inDigits
      · exact .inl rfl
      · exact .inr (Nat.isDigit_of_mem_toDigits (by decide) (by decide) inDigits)
  rcases isNumeral with rfl | isDigit
  · left
    exact List.mem_singleton.mp encoded
  · right
    simp only [Char.isDigit, Bool.and_eq_true, decide_eq_true_eq] at isDigit
    have small : character.utf8Size = 1 := by
      rw [Char.utf8Size_eq_one_iff]
      exact UInt32.le_trans isDigit.2 (by decide)
    rw [String.utf8EncodeChar_eq_singleton small] at encoded
    obtain rfl := List.mem_singleton.mp encoded
    rw [UInt8.le_iff_toNat_le, UInt32.toNat_toUInt8]
    have lower : 48 ≤ character.val.toNat := isDigit.1
    have upper : character.val.toNat ≤ 57 := isDigit.2
    rw [Nat.mod_eq_of_lt (by omega)]
    exact lower

end Numerals

namespace QuietTree

open InstalldHostImpl

variable {tree : QuietTree} {place other root : Place UInt8} {path : ByteString}
  {calls : Nat}

section Totals

/-- `GetDiskUsage` of a path that leads nowhere. -/
theorem getDiskUsage_of_none (nowhere : tree.lookUp path = none) :
    getDiskUsage tree calls path = 0 := by
  cases calls with
  | zero => rfl
  | succ calls =>
      rw [getDiskUsage, pathToRealPath, nowhere]
      split <;> rfl

theorem traverseCacheDirectory_of_none {cacheDirs : List ByteString}
    (nowhere : tree.lookUp path = none) :
    traverseCacheDirectory tree calls path cacheDirs = cacheDirs := by
  cases calls with
  | zero => rfl
  | succ calls =>
      rw [traverseCacheDirectory, pathToRealPath, nowhere]
      split <;> rfl

/-- A sum over paths whose usages are known and fit. -/
theorem getDiskUsageFromPath_eq {paths : List ByteString} {size : ByteString → Nat}
    (usages : ∀ path ∈ paths, getDiskUsage tree calls path = size path)
    (fits : (paths.map size).sum < 2 ^ 63) :
    getDiskUsageFromPath tree calls paths = ((paths.map size).sum : Nat) := by
  have loop : ∀ start : Nat, start + (paths.map size).sum < 2 ^ 63 →
      paths.foldl (fun fileSize st =>
          addInt64 fileSize (getDiskUsage tree calls st)) (start : Int) =
        ((start + (paths.map size).sum : Nat) : Int) := by
    clear fits
    induction paths with
    | nil => exact fun start _ => rfl
    | cons path paths ih =>
        rw [List.forall_mem_cons] at usages
        intro start fits
        rw [List.map_cons, List.sum_cons] at fits ⊢
        rw [List.foldl_cons, usages.1, addInt64_eq (by omega) (by omega)]
        have rest := ih usages.2 (start + size path) (by omega)
        rw [Int.natCast_add] at rest
        rw [rest, Nat.add_assoc]
  have whole := loop 0 (by omega)
  rw [Nat.zero_add] at whole
  exact whole

theorem suffices_of_length_lt (deep : ∀ place ∈ tree.files, place.length < calls) :
    tree.Suffices calls place := by
  intro other member _
  have bound := deep other member
  omega

theorem below_subset_of_mem (member : other ∈ below tree.places place) :
    below tree.places other ⊆ below tree.places place := by
  obtain ⟨-, strictly⟩ := mem_below.mp member
  obtain ⟨names, name, rfl⟩ := suffix_iff_append.mp strictly
  intro third thirdMem
  obtain ⟨inPlaces, ⟨front, rfl⟩, -⟩ := mem_below.mp thirdMem
  exact mem_below.mpr ⟨inPlaces,
    suffix_iff_append.mpr ⟨front ++ names, name, (List.append_assoc _ _ _).symm⟩⟩

theorem sizeBelow_le_of_mem (member : other ∈ below tree.places place) :
    tree.sizeBelow other ≤ tree.sizeBelow place :=
  sum_le_sum_of_subset (below_subset_of_mem member)

end Totals

section Roots

variable {paths : List ByteString} {cacheDirs : List ByteString}

/-- The places that paths lead to. -/
def roots (tree : QuietTree) (paths : List ByteString) : List (Place UInt8) :=
  paths.filterMap tree.lookUp

/-- What a path adds to a sum over the places that paths lead to. -/
theorem sum_roots (weight : Place UInt8 → Nat) :
    ((tree.roots paths).map weight).sum =
      (paths.map fun path => ((tree.lookUp path).map weight).getD 0).sum :=
  sum_map_filterMap tree.lookUp weight paths

theorem mem_roots : root ∈ tree.roots paths ↔
    ∃ path ∈ paths, tree.lookUp path = some root :=
  List.mem_filterMap

/-- What the loop over the data directories collects. -/
theorem exists_caches (deep : ∀ place ∈ tree.files, place.length < calls)
    (pathShort : ∀ path ∈ paths, path.length ≤ pathMaxSize)
    (short : ∀ root ∈ tree.roots paths, tree.IsShort root) :
    ∃ caches : List (Place UInt8),
      paths.foldl (fun cachePath st => traverseCacheDirectory tree calls st cachePath)
          cacheDirs = cacheDirs ++ caches.map pathOf ∧
        (∀ cache ∈ caches, ∃ root ∈ tree.roots paths,
          cache ∈ below tree.places root) ∧
        (caches.map tree.sizeBelow).sum =
          ((tree.roots paths).map tree.cacheBelow).sum := by
  induction paths generalizing cacheDirs with
  | nil => exact ⟨[], by simp, nofun, rfl⟩
  | cons path paths ih =>
      rw [List.forall_mem_cons] at pathShort
      have restRoots : ∀ root ∈ tree.roots paths, root ∈ tree.roots (path :: paths) := by
        intro root member
        obtain ⟨other, otherMem, found⟩ := mem_roots.mp member
        exact mem_roots.mpr ⟨other, List.mem_cons_of_mem path otherMem, found⟩
      have restShort : ∀ root ∈ tree.roots paths, tree.IsShort root :=
        fun root member => short root (restRoots root member)
      rw [List.foldl_cons]
      cases found : tree.lookUp path with
      | none =>
          have sameRoots : tree.roots (path :: paths) = tree.roots paths := by
            rw [roots, List.filterMap_cons, found]
            rfl
          rw [traverseCacheDirectory_of_none found, sameRoots]
          exact ih pathShort.2 restShort
      | some root =>
          have isRoot : root ∈ tree.roots (path :: paths) :=
            mem_roots.mpr ⟨path, List.mem_cons_self, found⟩
          obtain ⟨caches, collected, inside, size⟩ :=
            collects_traverseCacheDirectory cacheDirs found pathShort.1
              (suffices_of_length_lt deep) (short root isRoot)
          obtain ⟨others, rest, othersInside, othersSize⟩ :=
            @ih (traverseCacheDirectory tree calls path cacheDirs) pathShort.2 restShort
          refine ⟨caches ++ others, ?_, ?_, ?_⟩
          · rw [rest, collected, List.map_append, List.append_assoc]
          · intro cache member
            rcases List.mem_append.mp member with here | later
            · exact ⟨root, isRoot, inside cache here⟩
            · obtain ⟨other, otherMem, isBelow⟩ := othersInside cache later
              exact ⟨other, restRoots other otherMem, isBelow⟩
          · rw [List.map_append, List.sum_append, size, othersSize, roots, roots,
              List.filterMap_cons, found, List.map_cons, List.sum_cons]

/-- The usages of paths are the sizes below the places that they lead to. -/
theorem getDiskUsageFromPath_of_roots
    (deep : ∀ place ∈ tree.files, place.length < calls)
    (pathShort : ∀ path ∈ paths, path.length ≤ pathMaxSize)
    (short : ∀ root ∈ tree.roots paths, tree.IsShort root)
    (fits : ((tree.roots paths).map tree.sizeBelow).sum < 2 ^ 63) :
    getDiskUsageFromPath tree calls paths =
      (((tree.roots paths).map tree.sizeBelow).sum : Nat) := by
  have rootFits : ∀ root ∈ tree.roots paths, tree.sizeBelow root < 2 ^ 63 := by
    intro root member
    exact (List.single_le_sum (fun _ _ => Nat.zero_le _) _
      (List.mem_map_of_mem member)).trans_lt fits
  rw [sum_roots] at fits ⊢
  apply getDiskUsageFromPath_eq _ fits
  intro path member
  cases found : tree.lookUp path with
  | none => exact getDiskUsage_of_none found
  | some root =>
      have isRoot : root ∈ tree.roots paths := mem_roots.mpr ⟨path, member, found⟩
      exact getDiskUsage_eq found (pathShort path member) (suffices_of_length_lt deep)
        (short root isRoot) (rootFits root isRoot)

end Roots

/-- The places of the base directories of a bundle. -/
def dataDirs (tree : QuietTree) (bundleName : ByteString) (userId : Int32) :
    List (Place UInt8) :=
  tree.roots (bundlePath bundleName userId)

/-- The two sizes are those of the entries that do not stand, and that do stand, inside
a directory named cache, each of them counted once. -/
structure AddsUp (tree : QuietTree) (roots : List (Place UInt8))
    (bundleLocalSize cacheSize : Int) : Prop where
  bundleLocalSize_eq : bundleLocalSize = ((roots.map tree.localBelow).sum : Nat)
  cacheSize_eq : cacheSize = ((roots.map tree.cacheBelow).sum : Nat)
  bundleLocalSize_nonneg : 0 ≤ bundleLocalSize
  cacheSize_nonneg : 0 ≤ cacheSize
  total : bundleLocalSize + cacheSize = ((roots.map tree.sizeBelow).sum : Nat)

theorem sum_sizeBelow (tree : QuietTree) (roots : List (Place UInt8)) :
    (roots.map tree.sizeBelow).sum =
      (roots.map tree.localBelow).sum + (roots.map tree.cacheBelow).sum := by
  induction roots with
  | nil => rfl
  | cons root roots ih =>
      have split := cacheBelow_add_localBelow tree root
      rw [List.map_cons, List.map_cons, List.map_cons, List.sum_cons, List.sum_cons,
        List.sum_cons, ih]
      omega

/-- The usage of the collected directories is the size of what stands inside them. -/
theorem getDiskUsageFromPath_of_caches {dirs caches : List (Place UInt8)}
    (deep : ∀ place ∈ tree.files, place.length < calls)
    (short : ∀ root ∈ dirs, tree.IsShort root)
    (inside : ∀ cache ∈ caches, ∃ root ∈ dirs, cache ∈ below tree.places root)
    (fits : (caches.map tree.sizeBelow).sum < 2 ^ 63) :
    getDiskUsageFromPath tree calls (caches.map pathOf) =
      ((caches.map tree.sizeBelow).sum : Nat) := by
  have lookUps : ∀ cache ∈ caches, tree.lookUp (pathOf cache) = some cache := by
    intro cache member
    obtain ⟨root, -, isBelow⟩ := inside cache member
    exact lookUp_pathOf (mem_places.mp (mem_below.mp isBelow).1)
  have sameRoots : tree.roots (caches.map pathOf) = caches := by
    clear fits inside
    induction caches with
    | nil => rfl
    | cons cache caches ih =>
        rw [List.forall_mem_cons] at lookUps
        rw [List.map_cons, roots, List.filterMap_cons, lookUps.1]
        exact congrArg _ (ih lookUps.2)
  rw [← sameRoots] at fits
  have usage := getDiskUsageFromPath_of_roots deep ?_ ?_ fits
  · rw [sameRoots] at usage
    exact usage
  · intro path member
    obtain ⟨cache, cacheMem, rfl⟩ := List.mem_map.mp member
    obtain ⟨root, isRoot, isBelow⟩ := inside cache cacheMem
    exact short root isRoot cache isBelow
  · intro cache member
    rw [sameRoots] at member
    obtain ⟨root, isRoot, isBelow⟩ := inside cache member
    intro other otherMem
    exact short root isRoot other (below_subset_of_mem isBelow otherMem)

section Names

variable {bundleName el : ByteString} {userId : Int32}

theorem eq_walk_of_follow {names : List ByteString}
    (found : tree.follow place names = some other) :
    other = walk kDot place names := by
  induction names generalizing place with
  | nil =>
      unfold follow at found
      split at found <;> cases found
      rfl
  | cons name names ih =>
      unfold follow at found
      split at found
      · exact ih found
      · cases found

/-- A path without a zero byte leads along its names. -/
theorem eq_placeOf_of_lookUp (noZero : (0 : UInt8) ∉ path)
    (found : tree.lookUp path = some root) : root = placeOf path := by
  have whole : cString path = path := by
    rw [cString, List.takeWhile_eq_self_iff]
    intro byte member
    rw [decide_eq_true_iff]
    rintro rfl
    exact noZero member
  unfold lookUp at found
  rw [whole] at found
  split at found
  · cases found
  · exact eq_walk_of_follow found

theorem zero_notMem_baseDir (noZero : (0 : UInt8) ∉ bundleName) (area : el ∈ bundleEl) :
    (0 : UInt8) ∉ baseDir bundleName userId el := by
  have constants : (0 : UInt8) ∉ bytes "/data/app/" ∧ (0 : UInt8) ∉ bytes "/base/" ∧
      ∀ el ∈ bundleEl, (0 : UInt8) ∉ el := by
    decide +kernel
  have inNumeral : (0 : UInt8) ∉ idText userId := by
    intro member
    rcases mem_idText member with minus | digit
    · exact absurd minus (by decide)
    · exact absurd digit (by decide)
  simp only [baseDir, getBundleDataDir, List.mem_append, List.mem_singleton, not_or]
  exact ⟨⟨⟨⟨⟨constants.1, constants.2.2 el area⟩, by decide⟩, inNumeral⟩,
    constants.2.1⟩, noZero⟩

/-- A base directory is in the directory of its area. -/
theorem suffix_placeOf_baseDir (isName : IsFileName bundleName) (area : el ∈ bundleEl) :
    [el, bytes "app", bytes "data"] <:+ placeOf (baseDir bundleName userId el) := by
  have front : ∀ el ∈ bundleEl, placeOf (bytes "/data/app/" ++ el) =
      [el, bytes "app", bytes "data"] := by
    decide +kernel
  have base : names kSeparator (bytes "base/") = [bytes "base"] ∧
      (bytes "base/").getLast? = some kSeparator ∧ [kDot, kDot] ≠ bytes "base" ∧
      bytes "/base/" = kSeparator :: bytes "base/" := by
    decide +kernel
  have parts : baseDir bundleName userId el = (bytes "/data/app/" ++ el) ++
      kSeparator :: (idText userId ++ kSeparator :: (bytes "base/" ++ bundleName)) := by
    rw [baseDir, getBundleDataDir, base.2.2.2]
    simp
  have stays : [kDot, kDot] ∉ names kSeparator
      (idText userId ++ kSeparator :: (bytes "base/" ++ bundleName)) := by
    rw [names_append_separator, names_append (.inr (.inr base.2.1)), base.1,
      names_of_notMem isName.2.1 isName.1]
    intro member
    rcases List.mem_append.mp member with inNumeral | inRest
    · have dot : kDot ∈ idText userId :=
        (isInfix_of_mem_names inNumeral).subset List.mem_cons_self
      rcases mem_idText dot with minus | digit
      · exact absurd minus (by decide)
      · exact absurd digit (by decide)
    · rcases List.mem_cons.mp inRest with isBase | isLast
      · exact base.2.2.1 isBase
      · exact isName.2.2.2 (List.mem_singleton.mp isLast).symm
  rw [parts, placeOf, names_append_separator, walk_append]
  have inFront := front el area
  rw [placeOf] at inFront
  rw [inFront]
  exact suffix_walk stays _

/-- The trees below the base directories of a bundle have nothing in common. -/
theorem pairwise_disjoint_dataDirs (isName : IsFileName bundleName)
    (noZero : (0 : UInt8) ∉ bundleName) :
    (tree.dataDirs bundleName userId).Pairwise fun first second =>
      Disjoint (below tree.places first) (below tree.places second) := by
  have inArea : ∀ el ∈ bundleEl, ∀ root,
      tree.lookUp (baseDir bundleName userId el) = some root →
      [el, bytes "app", bytes "data"] <:+ root := by
    intro el area root found
    rw [eq_placeOf_of_lookUp (zero_notMem_baseDir noZero area) found]
    exact suffix_placeOf_baseDir isName area
  have areas : bundleEl.Pairwise (· ≠ ·) := by decide +kernel
  rw [dataDirs, roots, List.pairwise_filterMap, bundlePath, List.pairwise_map]
  apply (List.Pairwise.and_mem.mp areas).imp
  rintro first second ⟨firstArea, secondArea, apart⟩ firstRoot firstFound secondRoot
    secondFound
  rw [Finset.disjoint_left]
  intro other inFirst inSecond
  have underFirst :=
    (inArea first firstArea firstRoot firstFound).trans (mem_below.mp inFirst).2.1
  have underSecond :=
    (inArea second secondArea secondRoot secondFound).trans (mem_below.mp inSecond).2.1
  have same := (List.suffix_of_suffix_length_le underFirst underSecond le_rfl).eq_of_length
    rfl
  exact apart (List.cons.inj same).1

end Names

/-- `GetBundleStats` gives sizes that add up, for a bundle whose data directories have
paths that are not too long and sizes that fit in 63 bits. -/
theorem addsUp_getBundleStats (tree : QuietTree) (bundleName : ByteString)
    (userId : Int32) (given : bundleName ≠ [])
    (pathShort : ∀ path ∈ bundlePath bundleName userId, path.length ≤ pathMaxSize)
    (short : ∀ root ∈ tree.dataDirs bundleName userId, tree.IsShort root)
    (fits : ((tree.dataDirs bundleName userId).map tree.sizeBelow).sum < 2 ^ 63) :
    (∃ limit, ∀ calls ≥ limit,
      ∃ fileSize bundleLocalSize distributedFileSize databaseFileSize cacheSize,
        getBundleStats tree calls bundleName userId =
            (.ok, [fileSize, bundleLocalSize, distributedFileSize, databaseFileSize,
              cacheSize]) ∧
          tree.AddsUp (tree.dataDirs bundleName userId) bundleLocalSize cacheSize) ∧
    (IsFileName bundleName → (0 : UInt8) ∉ bundleName →
      (tree.dataDirs bundleName userId).Pairwise fun first second =>
        Disjoint (below tree.places first) (below tree.places second)) := by
  refine ⟨⟨tree.places.sup List.length + 1, ?_⟩, pairwise_disjoint_dataDirs⟩
  intro calls enough
  have deep : ∀ place ∈ tree.files, place.length < calls := by
    intro place member
    have atMost : place.length ≤ tree.places.sup List.length :=
      Finset.le_sup (mem_places.mpr member)
    omega
  obtain ⟨caches, collected, inside, size⟩ :=
    @exists_caches tree calls (bundlePath bundleName userId) [] deep pathShort short
  have split := sum_sizeBelow tree (tree.dataDirs bundleName userId)
  rw [← dataDirs] at size inside
  have cacheLe : (caches.map tree.sizeBelow).sum < 2 ^ 63 := by
    rw [size]
    omega
  have cacheUsage := getDiskUsageFromPath_of_caches deep short inside cacheLe
  have usage := getDiskUsageFromPath_of_roots deep pathShort short fits
  rw [← dataDirs] at usage
  rw [size] at cacheUsage
  rw [List.nil_append] at collected
  refine ⟨_, _, _, _, _, by rw [getBundleStats, if_neg given], ?_⟩
  rw [collected, cacheUsage, usage, subInt64_eq (by omega) (by omega)]
  constructor
  case cacheSize_eq => rfl
  case total =>
    rw [sum_sizeBelow]
    omega
  all_goals omega

section Demo

/-- A data directory with cache directories at two depths and one in another. -/
def demoFiles : Files :=
  let base := ["data", "app", "el1", "100", "base", "com.example.demo"]
  let directories := base.inits ++
    [["cache"], ["cache", "cache"], ["files"], ["files", "cache"]].map (base ++ ·)
  let files := [["cache", "page"], ["cache", "cache", "old"], ["files", "note"],
    ["files", "cache", "draft"]].map (base ++ ·)
  let placeAt (names : List String) : Place UInt8 := (names.map bytes).reverse
  .ofList (directories.map (fun names => (placeAt names, Node.mk none {})) ++
    files.map fun names => (placeAt names, Node.mk (some []) {}))

def demoTree : QuietTree where
  toTree := Tree.ofFiles demoFiles (by decide +kernel)
  noZero name place present := by
    have checked : ∀ place ∈ demoFiles.keys, ∀ name ∈ place, (0 : UInt8) ∉ name := by
      decide +kernel
    exact checked (name :: place) (Std.ExtTreeMap.mem_keys.mpr present) name
      List.mem_cons_self
  stSize place := 100 + place.length
  listing _ := ⟨List.reverse, List.reverse_perm⟩

end Demo

theorem addsUp_getBundleStats_demo :
    (∃ limit, ∀ calls ≥ limit,
      ∃ fileSize bundleLocalSize distributedFileSize databaseFileSize cacheSize,
        getBundleStats demoTree calls (bytes "com.example.demo") 100 =
            (.ok, [fileSize, bundleLocalSize, distributedFileSize, databaseFileSize,
              cacheSize]) ∧
          demoTree.AddsUp (demoTree.dataDirs (bytes "com.example.demo") 100)
            bundleLocalSize cacheSize) ∧
    (IsFileName (bytes "com.example.demo") → (0 : UInt8) ∉ bytes "com.example.demo" →
      (demoTree.dataDirs (bytes "com.example.demo") 100).Pairwise fun first second =>
        Disjoint (below demoTree.places first) (below demoTree.places second)) :=
  addsUp_getBundleStats demoTree (bytes "com.example.demo") 100 (by decide +kernel)
    (by decide +kernel) (by unfold IsShort; decide +kernel) (by decide +kernel)

example : getBundleStats demoTree 20 (bytes "com.example.demo") 100 =
    (.ok, [0, 430, 0, 0, 434]) := by
  decide +kernel

end QuietTree

end AppExecFwk
