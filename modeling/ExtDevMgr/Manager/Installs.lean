import ExtDevMgr.Manager.Cleanup
import ExtDevMgr.Pkg.Installed

/-!
# Installations and updates

A bundle is written into the package table, and then the devices are matched again. What a device gets
from it is what the table says (`install_reaches_devices`), whichever order the devices are visited in
(`onBundlesUpdated_order`).
-/

namespace ExtDevMgr.Manager.Installs
open ExtDeviceManager ExtDevMgr.Manager.System MatchMap Cleanup Json
open Pkg.PkgDbHelper (addOrUpdatePkgInfo)
open Pkg.UsbBusExtension (UsbDeviceInfo)

/-- What the device manager reads of the record of a driver. -/
def ofPackage (d : Pkg.DriverInfo) : DriverInfo where
  bundleName := d.bundleName
  driverName := d.driverName
  driverUid := d.driverUid
  userId := d.userId
  launchOnBind := d.launchOnBind
  accessAllowed := d.accessAllowed

/-- The queries of the device manager read the table `table`; `info` tells the ids of a device. -/
def Queries (lib : CJsonLib) (usb : Bool) (info : DeviceId → UsbDeviceInfo) (table : List Pkg.Row)
    (r : Replies) : Prop :=
  ∀ id, ∃ scan store s s', Pkg.Readable lib scan store s s' ∧ s'.table = table ∧
    scan.environment.usb = usb ∧
    r.queryMatchDriver id =
      (Pkg.queryMatchDriver lib scan store (some s) (info id)).map ofPackage

/-- The update does not touch the device: it is connected, and its id stands in no entry of the
bundle. -/
def PassedOver (bundleName : Name) (m : ExtDeviceManager) (id : DeviceId) (obj : Nat) : Prop :=
  (m.objects obj).drvExtRemote.isSome = true ∧ ¬ (bundleName ≠ [] ∧ InEntryOf bundleName m id)

/-- The device has the driver and waits for its connection. -/
structure Given (m : ExtDeviceManager) (id : DeviceId) (obj : Nat) (driver : DriverInfo) : Prop where
  bundleInfo : (m.objects obj).bundleInfo = driver.bundleInfo
  driverInfo : (m.objects obj).driverInfo = some driver
  drvExtRemote : (m.objects obj).drvExtRemote = none
  listed : id ∈ m.entry driver.bundleInfo

variable {lib : CJsonLib} {usb : Bool} {info : DeviceId → UsbDeviceInfo} {table : List Pkg.Row}
variable {m : ExtDeviceManager} {r : Replies} {bundleName : Name} {order : List DeviceId}
  {id : DeviceId} {obj : Nat}

theorem Queries.queryMatchDriver (h : Queries lib usb info table r) (id : DeviceId) :
    r.queryMatchDriver id = (table.findSome? (Pkg.matched lib usb (info id))).map ofPackage := by
  obtain ⟨scan, store, s, s', hread, rfl, rfl, hquery⟩ := h id
  rw [hquery, Pkg.queryMatchDriver_of_readable hread]

/-! ## One device -/

theorem passedOver_iff (hinfo : (m.objects obj).info = id) :
    PassedOver bundleName m id obj ↔
      (m.lookedAt bundleName (m.objects obj)).drvExtRemote.isSome = true := by
  by_cases hmem : (m.objects obj).info ∈ (m.deleteBundlesOfBundleInfoMap bundleName).1
  · rw [lookedAt_of_mem hmem, forgotten_drvExtRemote]
    rw [hinfo, mem_deleteBundles] at hmem
    exact iff_of_false (fun h => h.2 hmem) Bool.false_ne_true
  · rw [lookedAt_of_notMem hmem]
    rw [hinfo, mem_deleteBundles] at hmem
    exact and_iff_left hmem

theorem lookedAt_of_passedOver (hinfo : (m.objects obj).info = id)
    (h : PassedOver bundleName m id obj) :
    m.lookedAt bundleName (m.objects obj) = m.objects obj :=
  lookedAt_of_notMem fun hmem => h.2 (mem_deleteBundles.1 (hinfo ▸ hmem))

theorem lookedAt_info (d : Device) : (m.lookedAt bundleName d).info = d.info := cleaned_info _ d

theorem lookedAt_isUnRegisted (d : Device) :
    (m.lookedAt bundleName d).isUnRegisted = d.isUnRegisted := cleaned_isUnRegisted _ d

/-- The device is asked for unless it is passed over. -/
theorem newDriver_lookedAt (hreg : Registered m id obj) (hinfo : (m.objects obj).info = id)
    (h : ¬ PassedOver bundleName m id obj) :
    newDriver r (m.lookedAt bundleName (m.objects obj)) = r.queryMatchDriver id := by
  rw [passedOver_iff hinfo] at h
  rw [newDriver_of_unflagged ((lookedAt_isUnRegisted _).trans hreg.2), if_neg h, lookedAt_info, hinfo]

theorem newDriver_of_passedOver (hreg : Registered m id obj) (hinfo : (m.objects obj).info = id)
    (h : PassedOver bundleName m id obj) :
    newDriver r (m.lookedAt bundleName (m.objects obj)) = none := by
  rw [passedOver_iff hinfo] at h
  rw [newDriver_of_unflagged ((lookedAt_isUnRegisted _).trans hreg.2), if_pos h]

theorem given_of_newDriver {driverInfo : DriverInfo} (hm : m.Keyed)
    (horder : order.Perm m.deviceMap.keys) (hreg : Registered m id obj)
    (h : newDriver r (m.lookedAt bundleName (m.objects obj)) = some driverInfo) :
    Given (m.onBundlesUpdated r bundleName order) id obj driverInfo := by
  obtain ⟨hsame, hremote⟩ := onBundlesUpdated_some hm horder hreg.1 h
  refine ⟨hsame.bundleInfo, hsame.driverInfo, hremote, ?_⟩
  exact (mem_entry_onBundlesUpdated hm horder).2 (.inr ⟨obj, driverInfo, hreg.1, h, rfl⟩)

/-- What an update makes of a registered device, by what the table serves it. -/
theorem updated_cases (r : Replies) (bundleName : Name) (hm : m.Keyed) (horder : order.Perm m.deviceMap.keys)
    (hreg : Registered m id obj) :
    (PassedOver bundleName m id obj ∧
        (m.onBundlesUpdated r bundleName order).objects obj = m.objects obj) ∨
      ¬ PassedOver bundleName m id obj ∧
        ((∃ driverInfo, r.queryMatchDriver id = some driverInfo ∧
            Given (m.onBundlesUpdated r bundleName order) id obj driverInfo) ∨
          r.queryMatchDriver id = none ∧ (m.onBundlesUpdated r bundleName order).objects obj =
            m.lookedAt bundleName (m.objects obj)) := by
  have hinfo : (m.objects obj).info = id := hm id obj hreg.1
  by_cases hpass : PassedOver bundleName m id obj
  · have hnone := newDriver_of_passedOver (r := r) hreg hinfo hpass
    refine .inl ⟨hpass, ?_⟩
    rw [onBundlesUpdated_none hm horder hreg.1 hnone, lookedAt_of_passedOver hinfo hpass]
  · have hnew := newDriver_lookedAt (r := r) hreg hinfo hpass
    refine .inr ⟨hpass, ?_⟩
    cases hquery : r.queryMatchDriver id with
    | none =>
      exact .inr ⟨rfl, onBundlesUpdated_none hm horder hreg.1 (hnew.trans hquery)⟩
    | some driverInfo =>
      exact .inl ⟨driverInfo, rfl, given_of_newDriver hm horder hreg (hnew.trans hquery)⟩

/-! ## Installations -/

/-- What an update of the bundle has made of the device, if `served` is the driver of the table. -/
structure Reached (bundleName : Name) (served : Option Pkg.DriverInfo) (m m' : ExtDeviceManager)
    (id : DeviceId) (obj : Nat) : Prop where
  passedOver : PassedOver bundleName m id obj → m'.objects obj = m.objects obj
  given : ¬ PassedOver bundleName m id obj → ∀ d, served = some d → Given m' id obj (ofPackage d)
  forgotten : ¬ PassedOver bundleName m id obj → served = none → bundleName ≠ [] →
    InEntryOf bundleName m id → m'.objects obj = m.forgotten (m.objects obj)
  kept : ¬ PassedOver bundleName m id obj → served = none →
    ¬ (bundleName ≠ [] ∧ InEntryOf bundleName m id) → m'.objects obj = m.objects obj

theorem reached_of_queries (hm : m.Keyed) (horder : order.Perm m.deviceMap.keys)
    (hreg : Registered m id obj) {served : Option Pkg.DriverInfo}
    (hquery : r.queryMatchDriver id = served.map ofPackage) :
    Reached bundleName served m (m.onBundlesUpdated r bundleName order) id obj := by
  have hinfo : (m.objects obj).info = id := hm id obj hreg.1
  rcases updated_cases r bundleName hm horder hreg with
    ⟨hpass, hobj⟩ | ⟨hpass, ⟨driverInfo, hsome, hgiven⟩ | ⟨hnone, hobj⟩⟩
  · exact { passedOver := fun _ => hobj
            given := fun h => absurd hpass h
            forgotten := fun h => absurd hpass h
            kept := fun h => absurd hpass h }
  · obtain ⟨d, hd, rfl⟩ := Option.map_eq_some_iff.1 (hquery.symm.trans hsome)
    subst hd
    refine ⟨fun h => absurd h hpass, fun _ d' hd' => ?_, fun _ h => ?_, fun _ h => ?_⟩
    · cases hd'
      exact hgiven
    · cases h
    · cases h
  · have hserved : served = none := Option.map_eq_none_iff.1 (hquery.symm.trans hnone)
    subst hserved
    refine ⟨fun h => absurd h hpass, fun _ _ h => ?_, fun _ _ hb hin => ?_, fun _ _ hnot => ?_⟩
    · cases h
    · exact hobj.trans (lookedAt_of_inEntryOf hb (hinfo.symm ▸ hin))
    · rw [hobj, lookedAt_of_notMem]
      rw [hinfo, mem_deleteBundles]
      exact hnot

/-- **An installation reaches the devices.** In every state that a run leads to, once the records of a
bundle's manifest have been written into the table, an update of the bundle gives every registered
device that it does not pass over the driver of the first row of another bundle that serves it, or else
of the first record of the manifest that matches it. A device without either loses the driver it had
from the bundle and keeps any other. -/
theorem install_reaches_devices (driverChangeCallback : Bool) (as : List Action)
    (hrun : (machine driverChangeCallback).Runs as) (lib : CJsonLib) (env : Pkg.Environment)
    (infos : List Pkg.ExtensionAbilityInfo) (hnul : ∀ info ∈ infos, info.NulFree)
    (hprint : ∀ d ∈ (Pkg.parseToPkgInfoTables lib env infos []).1, d.Printable lib)
    (writes : Pkg.StoreReplies) (bundleName : Name) (initialised : Bool) (old : List Pkg.Row)
    (hok : Pkg.pkgOk ≤ (addOrUpdatePkgInfo writes (Pkg.parseToPkgInfoTables lib env infos []).2
      bundleName (.ready initialised old)).1)
    (info : DeviceId → UsbDeviceInfo) (r : Replies)
    (hqueries : Queries lib env.usb info (addOrUpdatePkgInfo writes
      (Pkg.parseToPkgInfoTables lib env infos []).2 bundleName (.ready initialised old)).2.table r)
    (order : List DeviceId)
    (horder : order.Perm ((machine driverChangeCallback).run
      (machine driverChangeCallback).init as).manager.deviceMap.keys) :
    let m := ((machine driverChangeCallback).run (machine driverChangeCallback).init as).manager
    ∀ id obj, Registered m id obj →
      Reached bundleName (Pkg.installed lib env infos bundleName old (info id)) m
        (m.onBundlesUpdated r bundleName order) id obj := by
  intro m id obj hreg
  refine reached_of_queries (run_keyed hrun) horder hreg ?_
  rw [hqueries.queryMatchDriver, Pkg.findSome?_written hnul hprint writes bundleName initialised old
    hok]

/-- The table once the mouse has been installed in an empty one. -/
def mouseTable : List Pkg.Row :=
  (addOrUpdatePkgInfo (Pkg.accepting 1)
    (Pkg.parseToPkgInfoTables Pkg.mouseLib Pkg.mouseEnvironment [Pkg.mouse] []).2
    "com.usb.mouse".toList (.ready true [])).2.table

/-- The answers to a manager whose devices are all mice. -/
def mouseReplies : Replies :=
  { replies with
    queryMatchDriver := fun _ =>
      (Pkg.queryMatchDriver Pkg.mouseLib Pkg.DrvBundleStateCallback.failingQuery (Pkg.accepting 1)
        (some (Pkg.scannedWith mouseTable)) Pkg.mouseDevice).map ofPackage }

theorem mouseReplies_queries :
    Queries Pkg.mouseLib Pkg.mouseEnvironment.usb (fun _ => Pkg.mouseDevice) mouseTable
      mouseReplies := by
  intro id
  have hlength : mouseTable.length < 2 ^ 31 := by decide +kernel
  have hread := Pkg.scannedWith_readable hlength
  exact ⟨_, _, _, _, hread, rfl, rfl, by rw [mouseReplies]⟩

/-- A mouse is plugged in before its driver is installed. -/
theorem install_reaches_mouse :
    let m := ((machine true).run (machine true).init [.registerDevice repliesWithout 1]).manager
    Reached "com.usb.mouse".toList
      (Pkg.installed Pkg.mouseLib Pkg.mouseEnvironment [Pkg.mouse] "com.usb.mouse".toList []
        Pkg.mouseDevice) m
      (m.onBundlesUpdated mouseReplies "com.usb.mouse".toList [1]) 1 0 := by
  have hrecords : (Pkg.parseToPkgInfoTables Pkg.mouseLib Pkg.mouseEnvironment [Pkg.mouse] []).1 =
      [Pkg.mouseDriver] := by
    decide +kernel
  refine install_reaches_devices true [.registerDevice repliesWithout 1] (by decide) Pkg.mouseLib
    Pkg.mouseEnvironment [Pkg.mouse] ?_ ?_ (Pkg.accepting 1) _ true [] (by decide +kernel)
    (fun _ => Pkg.mouseDevice) mouseReplies mouseReplies_queries [1] (by decide) 1 0 (by decide)
  · intro info hmem
    rw [List.mem_singleton.1 hmem]
    exact ⟨by decide +kernel, by decide +kernel⟩
  · intro d hmem
    rw [hrecords] at hmem
    rw [List.mem_singleton.1 hmem]
    exact Pkg.mouseDriver_printable

/-! ## The order of the devices -/

theorem updated_of_orders {order' : List DeviceId} (hm : m.Keyed)
    (horder : order.Perm m.deviceMap.keys) (horder' : order'.Perm m.deviceMap.keys)
    (hid : m.deviceMap.lookup id = some obj) :
    Device.SameDriver ((m.onBundlesUpdated r bundleName order).objects obj)
        ((m.onBundlesUpdated r bundleName order').objects obj) ∧
      ((m.onBundlesUpdated r bundleName order).objects obj).drvExtRemote =
        ((m.onBundlesUpdated r bundleName order').objects obj).drvExtRemote := by
  cases hnew : newDriver r (m.lookedAt bundleName (m.objects obj)) with
  | none =>
    rw [onBundlesUpdated_none hm horder hid hnew, onBundlesUpdated_none hm horder' hid hnew]
    exact ⟨.refl _, rfl⟩
  | some driverInfo =>
    obtain ⟨hsame, hremote⟩ := onBundlesUpdated_some hm horder hid hnew
    obtain ⟨hsame', hremote'⟩ := onBundlesUpdated_some hm horder' hid hnew
    refine ⟨⟨?_, ?_, ?_, ?_⟩, hremote.trans hremote'.symm⟩
    · exact hsame'.info.trans hsame.info.symm
    · exact hsame'.isUnRegisted.trans hsame.isUnRegisted.symm
    · exact hsame'.bundleInfo.trans hsame.bundleInfo.symm
    · exact hsame'.driverInfo.trans hsame.driverInfo.symm

/-- **The order of the devices.** In every state that a run leads to, an update ends with the same
drivers, remotes and match map entries whichever order it visits the devices in. -/
theorem onBundlesUpdated_order (driverChangeCallback : Bool) (as : List Action)
    (hrun : (machine driverChangeCallback).Runs as) (r : Replies) (bundleName : Name)
    (order order' : List DeviceId)
    (horder : order.Perm ((machine driverChangeCallback).run
      (machine driverChangeCallback).init as).manager.deviceMap.keys)
    (horder' : order'.Perm ((machine driverChangeCallback).run
      (machine driverChangeCallback).init as).manager.deviceMap.keys) :
    let m := ((machine driverChangeCallback).run (machine driverChangeCallback).init as).manager
    (∀ n, (m.onBundlesUpdated r bundleName order).entry n =
        (m.onBundlesUpdated r bundleName order').entry n) ∧
      ∀ id obj, m.deviceMap.lookup id = some obj →
        Device.SameDriver ((m.onBundlesUpdated r bundleName order).objects obj)
            ((m.onBundlesUpdated r bundleName order').objects obj) ∧
          ((m.onBundlesUpdated r bundleName order).objects obj).drvExtRemote =
            ((m.onBundlesUpdated r bundleName order').objects obj).drvExtRemote := by
  intro m
  have hm : m.Keyed := run_keyed hrun
  refine ⟨fun n => ?_, fun id obj hid => updated_of_orders hm horder horder' hid⟩
  ext id
  rw [mem_entry_onBundlesUpdated hm horder, mem_entry_onBundlesUpdated hm horder']

/-- Two devices that share a driver, the second one visited first. -/
theorem update_two_orders :
    let m := ((machine true).run (machine true).init
      [.registerDevice replies 1, .registerDevice repliesWithout 2]).manager
    (∀ n, (m.onBundlesUpdated replies ['b'] [1, 2]).entry n =
        (m.onBundlesUpdated replies ['b'] [2, 1]).entry n) ∧
      ∀ id obj, m.deviceMap.lookup id = some obj →
        Device.SameDriver ((m.onBundlesUpdated replies ['b'] [1, 2]).objects obj)
            ((m.onBundlesUpdated replies ['b'] [2, 1]).objects obj) ∧
          ((m.onBundlesUpdated replies ['b'] [1, 2]).objects obj).drvExtRemote =
            ((m.onBundlesUpdated replies ['b'] [2, 1]).objects obj).drvExtRemote :=
  onBundlesUpdated_order true _ (by decide) replies ['b'] [1, 2] [2, 1] (by decide) (by decide)

end ExtDevMgr.Manager.Installs
