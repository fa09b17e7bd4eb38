/-!
What the library offers: its version, and the names under which its parts are known to test code,
in the order of their texts.
-/

namespace DiskFixture.Catalog

def version : String := "0.1.0"

/-- The names that a test suite starts from. -/
def names : List String := [
  "BuildError", "ExternalCommandError", "LoopDisk", "MismatchError", "PartUUIDNotFoundError",
  "PartUUIDParseError", "PartitionInfo", "PartitionSpec", "PopulateError", "StorageError",
  "TeardownError", "__version__", "compare_partitions", "compute_digest", "create_disk_image",
  "create_file_partition", "resolve_partition_uuid"]

/-- The names of the storage part. -/
def storageNames : List String := [
  "BuildError", "ExternalCommandError", "LoopDisk", "MismatchError", "PartUUIDError",
  "PartUUIDNotFoundError", "PartUUIDParseError", "PartitionInfo", "PartitionSpec", "PopulateError",
  "StorageError", "TeardownError", "compare_partitions", "compute_digest", "create_disk_image",
  "create_file_partition", "disk_size_mib", "parse_partition_uuid", "partition_layout",
  "resolve_partition_uuid", "run_checked_command"]

end DiskFixture.Catalog
