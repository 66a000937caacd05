import UniPdf.Core.Object
import UniPdf.Core.Stream
import UniPdf.Core.Utf8
import UniPdf.Model.Basic
import UniPdf.Model.Descriptor
import UniPdf.Model.Skeleton
import UniPdf.Model.Font
import UniPdf.Model.Facade
import UniPdf.Model.Standard
import UniPdf.Model.Decode
import UniPdf.Model.Runs
import UniPdf.Creator.Rectangle
