import EmbeddedSdk.BluetoothIdentity
import EmbeddedSdk.MqttConfig
import EmbeddedSdk.WifiConfig

/-!
# Bounded values are faithful copies

Seven types keep their value in zero-padded storage beside a narrowed length and
compare storage and length as a whole. Each of them gives back exactly what its
constructor accepted, and two of its values are equal only if they were made from
the same input.
-/
namespace EmbeddedSdk.BoundedCopies
open PaddedBytes

theorem passphrase_storesText :
    StoresText Wifi.Passphrase.new (fun v => v.bytes) (fun v => v.len.toNat)
      (fun v => v.asStr) := by
  apply storesText
  · intro s v h
    obtain ⟨hsize, hv⟩ := Wifi.Passphrase.eq_of_new h
    subst hv
    have hcast : s.utf8ByteSize < 256 := Nat.lt_of_le_of_lt hsize (by decide)
    exact ⟨hsize, rfl, Nat.mod_eq_of_lt hcast⟩
  · intro v
    rfl

theorem deviceName_storesText :
    StoresText Bluetooth.DeviceName.new (fun v => v.bytes) (fun v => v.len.toNat)
      (fun v => v.asStr) := by
  apply storesText
  · intro s v h
    obtain ⟨hsize, hv⟩ := Bluetooth.DeviceName.eq_of_new h
    subst hv
    have hcast : s.utf8ByteSize < 256 := Nat.lt_of_le_of_lt hsize (by decide)
    exact ⟨hsize, rfl, Nat.mod_eq_of_lt hcast⟩
  · intro v
    rfl

theorem ssid_storesCopies :
    StoresCopies 0 id Wifi.Ssid.new (fun v => v.bytes) (fun v => v.len.toNat) := by
  apply storesCopies
  · intro i j h
    exact h
  · intro value v h
    obtain ⟨hsize, hv⟩ := Wifi.Ssid.eq_of_new h
    subst hv
    have hcast : value.size < 256 := Nat.lt_of_le_of_lt hsize (by decide)
    exact ⟨hsize, rfl, Nat.mod_eq_of_lt hcast⟩

/-- Every bounded type gives back what it was made from, for every accepted input,
and tells different inputs apart. -/
theorem bounded_values_are_copies :
    StoresText Mqtt.BrokerHostname.new (fun v => v.bytes) (fun v => v.len.toNat)
        (fun v => v.asStr) ∧
      StoresText Mqtt.ClientId.new (fun v => v.bytes) (fun v => v.len.toNat)
        (fun v => v.asStr) ∧
      StoresText Mqtt.TopicName.new (fun v => v.bytes) (fun v => v.len.toNat)
        (fun v => v.asStr) ∧
      StoresText Mqtt.TopicFilter.new (fun v => v.bytes) (fun v => v.len.toNat)
        (fun v => v.asStr) ∧
      StoresText Wifi.Passphrase.new (fun v => v.bytes) (fun v => v.len.toNat)
        (fun v => v.asStr) ∧
      StoresText Bluetooth.DeviceName.new (fun v => v.bytes) (fun v => v.len.toNat)
        (fun v => v.asStr) ∧
      StoresCopies 0 id Wifi.Ssid.new (fun v => v.bytes) (fun v => v.len.toNat) ∧
      ∀ value ssid, Wifi.Ssid.new value = .ok ssid → ssid.asBytes = value := by
  refine ⟨Mqtt.BoundedText.new_storesText (by decide) _,
    Mqtt.BoundedText.new_storesText (by decide) _, Mqtt.BoundedText.new_storesText (by decide) _,
    Mqtt.BoundedText.new_storesText (by decide) _, passphrase_storesText, deviceName_storesText,
    ssid_storesCopies, ?_⟩
  intro value ssid h
  exact (ssid_storesCopies.isCopy h).extract_eq

end EmbeddedSdk.BoundedCopies
