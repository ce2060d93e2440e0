import RootedStorage.Main
import RootedStorage.Session
import RootedStorage.Text.Encoding
import RootedStorage.Proofs.Csv.RoundTrip
import RootedStorage.Proofs.FileStorage.LastWrite
import RootedStorage.Proofs.Manager.Construction
import RootedStorage.Proofs.Parquet.Selection
import RootedStorage.Proofs.Session.AllOrNothing
import RootedStorage.Proofs.Session.Exclusive
import RootedStorage.Proofs.Session.Independence
import RootedStorage.Proofs.TableStorage.Reading
import RootedStorage.Proofs.TableStorage.Routes
import RootedStorage.Proofs.Table.Portion
import RootedStorage.Proofs.Csv.Portion
import RootedStorage.Proofs.Csv.Rows
import RootedStorage.Proofs.Format.BatchSize
import RootedStorage.Proofs.Csv.Escape
import RootedStorage.Proofs.Json.Strings
import RootedStorage.Proofs.Json.Objects
import RootedStorage.Proofs.Config.RoundTrip
import RootedStorage.Proofs.Csv.Declared
import RootedStorage.Proofs.Csv.Fields
import RootedStorage.Proofs.Csv.Undeclared
import RootedStorage.Proofs.FileStorage.MakeDirectory
import RootedStorage.Proofs.Disk.Missing
import RootedStorage.Proofs.TableStorage.Absence
import RootedStorage.Proofs.FileStorage.Remove
import RootedStorage.Proofs.FileStorage.Listing
import RootedStorage.Proofs.Stream.Lines
import RootedStorage.Proofs.Format.OptionValue
import RootedStorage.Proofs.Path.NormalForm
import RootedStorage.Proofs.Csv.Options
import RootedStorage.Proofs.Session.Streams
import RootedStorage.Proofs.Calendar.Date
import RootedStorage.Proofs.Calendar.Moment
import RootedStorage.Proofs.Csv.DateText
import RootedStorage.Proofs.Csv.Dated
import RootedStorage.Proofs.TableStorage.WrittenText
import RootedStorage.Proofs.Calendar.Internet
import RootedStorage.Proofs.Json.Numbers
import RootedStorage.Proofs.Json.Yields
import RootedStorage.Proofs.FileStat.RoundTrip
import RootedStorage.Proofs.Disk.Lasting
import RootedStorage.Proofs.Manager.Lasting
import RootedStorage.Proofs.CommandLine.Arguments
import RootedStorage.Proofs.CommandLine.Configured
import RootedStorage.Proofs.CommandLine.PutThenCat
